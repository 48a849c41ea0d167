/-
  The texts of statements by the shapes of values. Two requests are alike if they differ in values
  only, the values have the same shape field by field, and the fields that name a table are equal.
  The statements of alike requests have the same text: apart from the name of a table, a value
  reaches a database as an argument and in no other way.
-/
import CriteriaSql.Proofs.Request
import CriteriaSql.Proofs.Schemas
import CriteriaSql.Proofs.Shape.Conditions
import Mathlib

namespace CriteriaSql

variable {s : Settings}

/-! ## Alike values -/

/-- The declared fields have values of the same shape, and those that name the table are equal. -/
structure Record.Alike (type : RecordType) (r r' : Record) : Prop where
  shape : ∀ names ∈ type.fields, ∀ name ∈ names, (r.get name).shape = (r'.get name).shape
  table : ∀ name ∈ type.tableFields, r.get name = r'.get name

/-- Two values of a type that are read as alike records. -/
def RecordType.Alike (type : RecordType) (v w : Datum) : Prop :=
  ∀ r r', Record.read type.name v = .ok r → Record.read type.name w = .ok r' → r.Alike type r'

/-- Two queries of a type for the same page, with alike values. -/
structure Query.Alike (q q' : Query) : Prop where
  type : q.type = q'.type
  page : q.page = q'.page
  value : q.type.Alike q.value q'.value

/-- Two entities of a type with alike values. -/
structure Entity.Alike (e e' : Entity) : Prop where
  type : e.type = e'.type
  value : e.type.Alike e.value e'.value

/-- Two ids that name the same table. -/
def Id.Alike (type : RecordType) (id id' : Id) : Prop :=
  ∀ r r', id.record = .ok r → id'.record = .ok r' →
    ∀ name ∈ type.tableFields, r.get name = r'.get name

/-! ## Clauses -/

theorem Page.text_cut {f g : Fragment} (h : f.text = g.text) (page : Page) :
    (page.cut s f).text = (page.cut s g).text := by
  unfold cut
  split
  · exact congrArg (fun text => s.dialect.page text page.effectiveSize page.offset) h
  · exact h

theorem text_joinWith_congr {fs gs : List Fragment} (separator : String)
    (h : fs.map Fragment.text = gs.map Fragment.text) :
    (Fragment.joinWith separator fs).text = (Fragment.joinWith separator gs).text := by
  rw [Fragment.text_joinWith, Fragment.text_joinWith, h]

/-- Pieces that each follow the same text. -/
theorem text_concat_congr {fs gs : List Fragment} (lead : String)
    (h : fs.map Fragment.text = gs.map Fragment.text) :
    (Fragment.concat (fs.map fun f => lead ++ f)).text =
      (Fragment.concat (gs.map fun g => lead ++ g)).text := by
  have hlead (fs : List Fragment) : (fs.map fun f => (lead ++ f : Fragment)).map Fragment.text =
      (fs.map Fragment.text).map (lead ++ ·) := by
    rw [List.map_map, List.map_map]
    rfl
  rw [Fragment.text_concat, Fragment.text_concat, hlead, hlead, h]

theorem text_whereClause {cs cs' : List Fragment}
    (h : cs.map Fragment.text = cs'.map Fragment.text) :
    (whereClause cs).text = (whereClause cs').text := by
  have hlength : cs.length = cs'.length := by
    simpa using congrArg List.length h
  match cs, cs' with
  | [], [] => rfl
  | c :: cs, c' :: cs' =>
    simp only [whereClause, Fragment.text_append, text_joinWith_congr " AND " h]

theorem Rows.text_sql {rows rows' : Rows} (ht : rows.table = rows'.table)
    (hj : rows.joins.map Fragment.text = rows'.joins.map Fragment.text)
    (hc : rows.conditions.map Fragment.text = rows'.conditions.map Fragment.text) :
    rows.sql.text = rows'.sql.text := by
  simp only [Rows.sql, Fragment.text_append, ht, text_concat_congr " " hj, text_whereClause hc]

theorem text_insertInto {rows rows' : List (List Scalar)} (table : String)
    (plans : List (FieldPlan EntityRole))
    (h : rows.map List.length = rows'.map List.length) :
    (insertInto table plans rows).text = (insertInto table plans rows').text := by
  have htexts (rows : List (List Scalar)) :
      (rows.map Fragment.argumentList).map Fragment.text =
        (rows.map List.length).map Fragment.placeholderList := by
    rw [List.map_map, List.map_map]
    rfl
  have hrows : (rows.map Fragment.argumentList).map Fragment.text =
      (rows'.map Fragment.argumentList).map Fragment.text := by
    rw [htexts, htexts, h]
  simp only [insertInto, Fragment.text_append, text_joinWith_congr ", " hrows]

theorem text_updateOf {sets sets' cs cs' : List Fragment} (table : String)
    (hs : sets.map Fragment.text = sets'.map Fragment.text)
    (hc : cs.map Fragment.text = cs'.map Fragment.text) :
    (updateOf table sets cs).text = (updateOf table sets' cs').text := by
  simp only [updateOf, Fragment.text_append, text_joinWith_congr ", " hs, text_whereClause hc]

/-! ## Criteria objects -/

namespace Query

variable {q q' : Query} {schema : CriteriaSchema}

theorem Alike.schema_eq (h : q.Alike q') : q.schema s = q'.schema s := by
  unfold Query.schema
  rw [h.type]

theorem Alike.records {r r' : Record} (h : q.Alike q') (hr : q.record = .ok r)
    (hr' : q'.record = .ok r') : r.Alike q.type r' := by
  unfold Query.record at hr hr'
  rw [← h.type] at hr'
  exact h.value r r' hr hr'

theorem table_eq (h : q.Alike q') (hschema : q.schema s = .ok schema) {r r' : Record}
    (hr : q.record = .ok r) (hr' : q'.record = .ok r') :
    schema.table.render r = schema.table.render r' := by
  obtain ⟨names, hb⟩ := RecordType.criteriaSchema_built hschema
  refine Template.render_congr fun name hm => ?_
  rw [Template.fieldNames_of_parse hb.table] at hm
  exact (h.records hr hr').table name hm

theorem agree_conditions (h : q.Alike q') (hschema : q.schema s = .ok schema) {r r' : Record}
    (hr : q.record = .ok r) (hr' : q'.record = .ok r') (taken : Option Template) :
    Agree (List.map Fragment.text) (schema.conditions s r taken)
      (schema.conditions s r' taken) := by
  obtain ⟨names, hb⟩ := RecordType.criteriaSchema_built hschema
  refine schema.agree_conditions s taken fun plan hp => ?_
  obtain ⟨field, hf, hplan⟩ := hb.exists_field hp
  rw [(CriteriaSchema.plan_spec hplan).1]
  exact (h.records hr hr').shape names hb.fields field hf

theorem agree_rows (h : q.Alike q') (hschema : q.schema s = .ok schema) (joins : List Template)
    (taken : Option Template) :
    Agree (fun rows => rows.sql.text) (q.rows s schema joins taken)
      (q'.rows s schema joins taken) := by
  refine .bind_of fun r r' hr hr' => ?_
  have hjoins := Agree.mapM Fragment.text joins fun t _ => t.agree_bind r r'
  rw [← table_eq h hschema hr hr']
  refine .bind_same fun table _ => hjoins.bind fun bound bound' hbound => ?_
  refine (agree_conditions h hschema hr hr' taken).bind fun cs cs' hcs => .ok ?_
  exact Rows.text_sql rfl hbound hcs

theorem agree_selectOver (h : q.Alike q') (columns : List String) (extra : Option Template) :
    Agree Fragment.text (q.selectOver s columns extra) (q'.selectOver s columns extra) := by
  unfold selectOver
  rw [← h.schema_eq, ← h.page]
  refine .bind_same fun schema hschema => ?_
  refine (agree_rows h hschema _ extra).bind fun rows rows' hrows => ?_
  refine .bind_same fun order _ => .ok (Page.text_cut ?_ q.page)
  simp only [Fragment.text_append, hrows]

theorem agree_count (h : q.Alike q') : Agree Fragment.text (q.count s) (q'.count s) := by
  unfold count
  rw [← h.schema_eq]
  refine .bind_same fun schema hschema => ?_
  refine (agree_rows h hschema _ none).bind fun rows rows' hrows => .ok ?_
  simp only [Fragment.text_append, hrows]

theorem agree_delete (h : q.Alike q') : Agree Fragment.text (q.delete s) (q'.delete s) := by
  unfold delete
  rw [← h.schema_eq, ← h.page]
  refine .bind_same fun schema hschema => ?_
  refine (agree_rows h hschema _ none).bind fun rows rows' hrows => .ok (Page.text_cut ?_ q.page)
  simp only [Fragment.text_append, hrows]

end Query

/-! ## Entities -/

namespace Entity

variable {type : RecordType} {schema : EntitySchema} {r r' : Record}

theorem table_eq (h : ∀ name ∈ type.tableFields, r.get name = r'.get name)
    (hschema : type.asEntity s = .ok schema) : schema.table.render r = schema.table.render r' := by
  obtain ⟨names, hb⟩ := RecordType.entitySchema_built hschema
  refine Template.render_congr fun name hm => ?_
  rw [Template.fieldNames_of_parse hb.table] at hm
  exact h name hm

/-- A column has a value in both records or in neither. -/
theorem isAbsent_column (h : r.Alike type r') (hschema : type.asEntity s = .ok schema)
    {plan : FieldPlan EntityRole} (hp : plan ∈ schema.columns) :
    (r.get plan.name).isAbsent = (r'.get plan.name).isAbsent := by
  obtain ⟨names, hb⟩ := RecordType.entitySchema_built hschema
  obtain ⟨field, hf, hplan⟩ := hb.exists_field (List.mem_filter.1 hp).1
  rw [(EntitySchema.plan_spec hplan).1, FieldValue.isAbsent_eq, FieldValue.isAbsent_eq,
    h.shape names hb.fields field hf]

theorem insertColumns_eq (h : r.Alike type r') (hschema : type.asEntity s = .ok schema) :
    schema.insertColumns r = schema.insertColumns r' := by
  refine List.filter_congr fun plan hp => ?_
  rw [isAbsent_column h hschema hp]

theorem agree_assignments (h : r.Alike type r') (hschema : type.asEntity s = .ok schema)
    (presentOnly : Bool) :
    Agree (List.map Fragment.text) (schema.assignments r presentOnly)
      (schema.assignments r' presentOnly) := by
  have hplans : schema.columns.filter (fun plan =>
        !schema.isId plan.name && !(presentOnly && (r.get plan.name).isAbsent)) =
      schema.columns.filter fun plan =>
        !schema.isId plan.name && !(presentOnly && (r'.get plan.name).isAbsent) := by
    refine List.filter_congr fun plan hp => ?_
    rw [isAbsent_column h hschema hp]
  unfold EntitySchema.assignments
  dsimp only
  rw [hplans]
  refine (Agree.mapM Fragment.text _ fun plan _ => ?_).bind fun a b hab => ?_
  · intro f g hf hg
    obtain ⟨x, -, rfl⟩ := map_eq_ok.1 hf
    obtain ⟨y, -, rfl⟩ := map_eq_ok.1 hg
    rfl
  · intro f g hf hg
    split at hf
    · cases hf
    split at hg
    · cases hg
    rw [pure_eq_ok] at hf hg
    rw [← hf, ← hg, hab]

theorem Alike.asEntity_eq {e e' : Entity} (h : e.Alike e') :
    e.type.asEntity s = e'.type.asEntity s := by
  rw [h.type]

theorem Alike.records {e e' : Entity} (h : e.Alike e') (hr : e.record = .ok r)
    (hr' : e'.record = .ok r') : r.Alike e.type r' := by
  unfold Entity.record at hr hr'
  rw [← h.type] at hr'
  exact h.value r r' hr hr'

theorem agree_create {e e' : Entity} (h : e.Alike e') :
    Agree Fragment.text (e.create s) (e'.create s) := by
  unfold create
  rw [← h.asEntity_eq]
  refine .bind_same fun schema hschema => .bind_of fun r r' hr hr' => ?_
  have halike := h.records hr hr'
  rw [← insertColumns_eq halike hschema, ← table_eq halike.table hschema]
  refine .bind_of fun args args' hargs hargs' => .bind_same fun table _ => .ok ?_
  refine text_insertInto table _ ?_
  rw [List.map_singleton, List.map_singleton, length_of_mapM hargs, length_of_mapM hargs']

/-- Every row of an INSERT has an argument for each column. -/
theorem lengths_batchRows {values : List Datum} {rows : List (List Scalar)}
    (h : values.mapM (type.batchRow schema) = .ok rows) :
    rows.map List.length = List.replicate values.length schema.batchColumns.length := by
  rw [List.eq_replicate_iff]
  refine ⟨by rw [List.length_map, length_of_mapM h], fun n hn => ?_⟩
  obtain ⟨row, hrow, rfl⟩ := List.mem_map.1 hn
  obtain ⟨value, -, hvalue⟩ := exists_of_mem_mapM h hrow
  obtain ⟨record, -, hbind⟩ := bind_eq_ok.1 hvalue
  exact length_of_mapM hbind

theorem agree_createBatch {values values' : List Datum}
    (h : List.Forall₂ type.Alike values values') (updateColumns : List String) :
    Agree (Option.map Fragment.text) (createBatch type values s updateColumns)
      (createBatch type values' s updateColumns) := by
  cases h with
  | nil => exact .refl _ _
  | cons hfirst hrest =>
    refine .bind_same fun schema hschema => .bind_of fun r r' hr hr' => ?_
    rw [← table_eq (hfirst r r' hr hr').table hschema]
    refine .bind_same fun table _ => .bind_of fun rows rows' hrows hrows' => ?_
    have hlengths : rows.map List.length = rows'.map List.length := by
      rw [lengths_batchRows hrows, lengths_batchRows hrows', List.length_cons, List.length_cons,
        hrest.length_eq]
    refine .bind_same fun updates _ => .ok ?_
    simp only [Option.map_some, Fragment.text_append, text_insertInto table _ hlengths]

theorem agree_updateById {e e' : Entity} (h : e.Alike e') (presentOnly : Bool) :
    Agree Fragment.text (e.updateById s presentOnly) (e'.updateById s presentOnly) := by
  unfold updateById
  rw [← h.asEntity_eq]
  refine .bind_same fun schema hschema => .bind_of fun r r' hr hr' => ?_
  have halike := h.records hr hr'
  refine (agree_assignments halike hschema presentOnly).bind fun sets sets' hsets => ?_
  rw [← table_eq halike.table hschema]
  refine .bind_same fun table _ => .bind_of fun id id' _ _ => .ok ?_
  exact text_updateOf table hsets rfl

theorem agree_patchByQuery {e e' : Entity} {q q' : Query} (h : e.Alike e') (hq : q.Alike q') :
    Agree Fragment.text (e.patchByQuery s q) (e'.patchByQuery s q') := by
  unfold patchByQuery
  rw [← h.asEntity_eq, ← hq.schema_eq]
  refine .bind_same fun schema hschema => .bind_of fun r r' hr hr' => ?_
  have halike := h.records hr hr'
  refine (agree_assignments halike hschema true).bind fun sets sets' hsets => ?_
  rw [← table_eq halike.table hschema]
  refine .bind_same fun table _ => .bind_same fun criteria hcriteria => ?_
  refine .bind_of fun v v' hv hv' => ?_
  refine (Query.agree_conditions hq hcriteria hv hv' none).bind fun cs cs' hcs => .ok ?_
  exact text_updateOf table hsets hcs

end Entity

namespace RecordType

variable {type : RecordType} {id id' : Id}

theorem agree_deleteById (h : id.Alike type id') :
    Agree Fragment.text (type.deleteById s id) (type.deleteById s id') := by
  refine .bind_same fun schema hschema => .bind_of fun r r' hr hr' => ?_
  rw [← Entity.table_eq (h r r' hr hr') hschema]
  exact .bind_same fun table _ => .ok rfl

theorem agree_selectById (h : id.Alike type id') (columns : List String) :
    Agree Fragment.text (type.selectById s id columns) (type.selectById s id' columns) := by
  refine .bind_same fun schema hschema => .bind_of fun r r' hr hr' => ?_
  rw [← Entity.table_eq (h r r' hr hr') hschema]
  exact .bind_same fun table _ => .ok rfl

end RecordType

/-! ## Relations -/

namespace Related

variable {owner joined : RecordType} {field columns ownerTable : String}

/-- The text of a clause is the same for every owner. -/
theorem text_relationClause {relation : Relation} {clause : ByOwner}
    (h : relationClause s field columns ownerTable relation = .ok clause) (a b : Scalar) :
    (clause a).text = (clause b).text := by
  unfold relationClause at h
  split at h
  · cases h
  · split at h
    · cases h
      cases relation.cardinality with
      | one => rfl
      | many => rfl
    · cases h
  next first _ _ _ =>
    simp only [bind_eq_ok, pure_eq_ok] at h
    obtain ⟨⟨hop, hops⟩, -, rfl⟩ := h
    have hstart : (columnEquals hop.source a).text = (columnEquals hop.source b).text := rfl
    have hhead : (head columns a).text = (head columns b).text := rfl
    simp only [joinedClause, Fragment.text_append, hhead,
      Condition.text_pathQuery hstart hop hops]

theorem text_restrict {cs cs' : List Fragment} {f g : Fragment} (page : Page)
    (order : Option String) (hc : cs.map Fragment.text = cs'.map Fragment.text)
    (h : f.text = g.text) :
    (restrict s page order cs f).text = (restrict s page order cs' g).text := by
  have hall : (f ++ Fragment.concat (cs.map fun c => " AND " ++ c) ++
        optionalClause " ORDER BY " order : Fragment).text =
      (g ++ Fragment.concat (cs'.map fun c => " AND " ++ c) ++
        optionalClause " ORDER BY " order : Fragment).text := by
    simp only [Fragment.text_append, h, text_concat_congr " AND " hc]
  have hcut := Page.text_cut (s := s) hall page
  unfold restrict
  dsimp only
  split
  · simp only [Fragment.parenthesized, Fragment.text_append, hcut]
  · exact hcut

/-- Two filters that make the same texts of the same texts. -/
def SameTexts (s : Settings) (filter filter' : Option Filter) : Prop :=
  ∀ w w', restriction s filter = .ok w → restriction s filter' = .ok w' →
    ∀ f g, f.text = g.text → (w f).text = (w' g).text

theorem sameTexts_none : SameTexts s none none := by
  intro w w' hw hw' f g h
  cases hw
  cases hw'
  exact h

theorem sameTexts_some {q q' : Query} (h : q.Alike q') {schema : CriteriaSchema}
    (hschema : q.schema s = .ok schema) {r r' : Record} (hr : q.record = .ok r)
    (hr' : q'.record = .ok r') :
    SameTexts s (some ⟨schema, r, q.page⟩) (some ⟨schema, r', q.page⟩) := by
  intro w w' hw hw' f g hfg
  obtain ⟨cs, hcs, order, horder, rfl⟩ := filter_apply_eq_ok.1 hw
  obtain ⟨cs', hcs', order', horder', rfl⟩ := filter_apply_eq_ok.1 hw'
  obtain rfl := ok_unique horder horder'
  exact text_restrict q.page order
    (Query.agree_conditions h hschema hr hr' none cs cs' hcs hcs') hfg

theorem text_ownerClause {filter filter' : Option Filter} (h : SameTexts s filter filter')
    {clause clause' : ByOwner} (hc : ownerClause s owner joined field filter = .ok clause)
    (hc' : ownerClause s owner joined field filter' = .ok clause') (a b : Scalar) :
    (clause a).text = (clause' b).text := by
  obtain ⟨schema, hschema, relation, hrelation, other, hother, table, htable, base, hbase,
    w, hw, rfl⟩ := ownerClause_eq_ok.1 hc
  obtain ⟨schema', hschema', relation', hrelation', other', hother', table', htable', base', hbase',
    w', hw', rfl⟩ := ownerClause_eq_ok.1 hc'
  obtain rfl := ok_unique hschema hschema'
  obtain rfl := ok_unique hrelation hrelation'
  obtain rfl := ok_unique hother hother'
  obtain rfl := ok_unique htable htable'
  obtain rfl := ok_unique hbase hbase'
  exact h w w' hw hw' (base a) (base b) (text_relationClause hbase a b)

theorem text_union {clause clause' : ByOwner} (h : ∀ a b, (clause a).text = (clause' b).text)
    {ids ids' : List Scalar} (hl : ids.length = ids'.length) :
    (union clause ids).text = (union clause' ids').text := by
  refine text_joinWith_congr " UNION ALL " ?_
  rw [List.map_map, List.map_map]
  refine List.ext_getElem (by simpa using hl) fun n hn hn' => ?_
  rw [List.getElem_map, List.getElem_map]
  exact h _ _

theorem agree_statement {filter filter' : Option Filter} (h : SameTexts s filter filter')
    {ids ids' : List Scalar} (hl : ids.length = ids'.length) :
    Agree (Option.map Fragment.text) (statement s owner joined field ids filter)
      (statement s owner joined field ids' filter') := by
  intro o o' ho ho'
  obtain ⟨hids, rfl⟩ | ⟨hids, clause, hclause, rfl⟩ := statement_eq_ok.1 ho
  · obtain ⟨-, rfl⟩ | ⟨hids', -⟩ := statement_eq_ok.1 ho'
    · rfl
    · rw [hids, List.length_nil] at hl
      exact (hids' (List.length_eq_zero_iff.1 hl.symm)).elim
  · obtain ⟨hids', -⟩ | ⟨-, clause', hclause', rfl⟩ := statement_eq_ok.1 ho'
    · rw [hids', List.length_nil] at hl
      exact (hids (List.length_eq_zero_iff.1 hl)).elim
    · exact congrArg some (text_union (text_ownerClause h hclause hclause') hl)

end Related

theorem RecordType.agree_relatedWhere {owner joined : RecordType} {field : String} {q q' : Query}
    (h : q.Alike q') {ids ids' : List Scalar} (hl : ids.length = ids'.length) :
    Agree (Option.map Fragment.text) (owner.relatedWhere joined s q field ids)
      (owner.relatedWhere joined s q' field ids') := by
  unfold relatedWhere
  rw [← h.schema_eq, ← h.page]
  refine .bind_same fun schema hschema => .bind_of fun r r' hr hr' => ?_
  exact Related.agree_statement (Related.sameTexts_some h hschema hr hr') hl

/-! ## Every request -/

namespace Request

/-- Two calls of the same builder that differ in values only: the values have the same shape field
    by field and name the same tables, and there are as many entities or owners. -/
inductive Alike : Request → Request → Prop
  | select {q q' : Query} (h : q.Alike q') (columns : List String) :
      Alike (.select q columns) (.select q' columns)
  | selectId {q q' : Query} (h : q.Alike q') : Alike (.selectId q) (.selectId q')
  | selectJoined {q q' : Query} (h : q.Alike q') (join : String) (columns : List String) :
      Alike (.selectJoined q join columns) (.selectJoined q' join columns)
  | count {q q' : Query} (h : q.Alike q') : Alike (.count q) (.count q')
  | delete {q q' : Query} (h : q.Alike q') : Alike (.delete q) (.delete q')
  | create {e e' : Entity} (h : e.Alike e') : Alike (.create e) (.create e')
  | createBatch {type : RecordType} {values values' : List Datum}
      (h : List.Forall₂ type.Alike values values') (updateColumns : List String) :
      Alike (.createBatch type values updateColumns) (.createBatch type values' updateColumns)
  | update {e e' : Entity} (h : e.Alike e') : Alike (.update e) (.update e')
  | patchById {e e' : Entity} (h : e.Alike e') : Alike (.patchById e) (.patchById e')
  | patchByQuery {e e' : Entity} {q q' : Query} (h : e.Alike e') (hq : q.Alike q') :
      Alike (.patchByQuery e q) (.patchByQuery e' q')
  | deleteById {type : RecordType} {id id' : Id} (h : id.Alike type id') :
      Alike (.deleteById type id) (.deleteById type id')
  | selectById {type : RecordType} {id id' : Id} (h : id.Alike type id') (columns : List String) :
      Alike (.selectById type id columns) (.selectById type id' columns)
  | related (owner joined : RecordType) (field : String) {ids ids' : List Scalar}
      (h : ids.length = ids'.length) :
      Alike (.related owner joined field ids) (.related owner joined field ids')
  | relatedWhere (owner joined : RecordType) {q q' : Query} (hq : q.Alike q') (field : String)
      {ids ids' : List Scalar} (h : ids.length = ids'.length) :
      Alike (.relatedWhere owner joined q field ids) (.relatedWhere owner joined q' field ids')

theorem agree_map_some {x y : Except Error Statement} (h : Agree Fragment.text x y) :
    Agree (Option.map Fragment.text) (x.map some) (y.map some) :=
  h.map fun _ _ => congrArg some

/-- Values never reach the text. Where alike requests are both answered, the statements have the
    same text, or there is none in both cases. -/
theorem text_eq_of_alike {request request' : Request} (h : request.Alike request')
    {f g : Option Statement} (hf : request.statement s = .ok f)
    (hg : request'.statement s = .ok g) : f.map Fragment.text = g.map Fragment.text := by
  suffices hagree :
      Agree (Option.map Fragment.text) (request.statement s) (request'.statement s) from
    hagree f g hf hg
  cases h with
  | select h columns => exact agree_map_some (Query.agree_selectOver h columns none)
  | selectId h => exact agree_map_some (Query.agree_selectOver h ["id"] none)
  | selectJoined h join columns =>
    exact agree_map_some (.bind_same fun t _ => Query.agree_selectOver h columns (some t))
  | count h => exact agree_map_some (Query.agree_count h)
  | delete h => exact agree_map_some (Query.agree_delete h)
  | create h => exact agree_map_some (Entity.agree_create h)
  | createBatch h updateColumns => exact Entity.agree_createBatch h updateColumns
  | update h => exact agree_map_some (Entity.agree_updateById h false)
  | patchById h => exact agree_map_some (Entity.agree_updateById h true)
  | patchByQuery h hq => exact agree_map_some (Entity.agree_patchByQuery h hq)
  | deleteById h => exact agree_map_some (RecordType.agree_deleteById h)
  | selectById h columns => exact agree_map_some (RecordType.agree_selectById h columns)
  | related owner joined field h => exact Related.agree_statement Related.sameTexts_none h
  | relatedWhere owner joined hq field h => exact RecordType.agree_relatedWhere hq h

theorem alike_ofAge (age age' : String) : Query.Alike (.ofAge age) (.ofAge age') := by
  refine ⟨rfl, rfl, fun r r' hr hr' => ?_⟩
  have hread (a : String) : Record.read "UserQuery" (.record [("age", .text a)]) =
      .ok ⟨"UserQuery", [("age", .scalar (.text a))]⟩ := rfl
  have hfields : (Query.ofAge age).type.tableFields = [] := by cbv
  cases (hread age).symm.trans hr
  cases (hread age').symm.trans hr'
  refine ⟨?_, by simp [hfields]⟩
  intro names hnames name hname
  cases hnames
  rw [List.mem_singleton.1 hname]
  rfl

set_option maxRecDepth 20000 in
theorem text_select_ofAge :
    ∃ f g, (select (.ofAge "3") []).statement .default = .ok f ∧
      (select (.ofAge "4") []).statement .default = .ok g ∧ f ≠ g ∧
      f.map Fragment.text = g.map Fragment.text := by
  have hf : (select (.ofAge "3") []).statement .default =
      .ok (some ⟨"SELECT * FROM user WHERE age = ?", [.text "3"]⟩) := by cbv
  have hg : (select (.ofAge "4") []).statement .default =
      .ok (some ⟨"SELECT * FROM user WHERE age = ?", [.text "4"]⟩) := by cbv
  refine ⟨_, _, hf, hg, by decide, ?_⟩
  exact text_eq_of_alike (.select (alike_ofAge "3" "4") []) hf hg

end Request

end CriteriaSql
