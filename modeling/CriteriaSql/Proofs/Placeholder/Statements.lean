/-
  Statements are balanced: every statement has as many placeholders as arguments, and it splits
  into the pieces that carry them. What the developer declares has to be plain, apart from
  conditions as written, and the dialect may not add placeholders; values and sort expressions are
  arbitrary.
-/
import CriteriaSql.Proofs.Placeholder.Conditions
import CriteriaSql.Proofs.Request
import Mathlib

namespace CriteriaSql

open Text (Plain)

variable {s : Settings} {f : Statement}

/-! ## Clauses -/

theorem plain_optionalClause (keyword : String) {body : Option String} (hk : Plain keyword)
    (hb : ∀ text ∈ body, Plain text) : Plain (optionalClause keyword body) := by
  unfold optionalClause
  split
  next text => exact Text.plain_append.2 ⟨hk, hb text rfl⟩
  next => decide

theorem plain_selectList {columns : List String} (h : ∀ column ∈ columns, Plain column) :
    Plain (selectList columns) := by
  unfold selectList
  split
  · decide
  · exact Text.plain_intercalate (by decide) h

theorem plain_countExpr {groupBy : Option String} (h : ∀ text ∈ groupBy, Plain text) :
    Plain (countExpr groupBy) := by
  unfold countExpr
  split
  next text => simp +decide [h text rfl]
  next => decide

theorem plain_columnList {plans : List (FieldPlan EntityRole)}
    (h : ∀ plan ∈ plans, Plain plan.column) : Plain (columnList plans) := by
  refine Text.plain_intercalate (by decide) fun column hm => ?_
  obtain ⟨plan, hp, rfl⟩ := List.mem_map.1 hm
  exact h plan hp

theorem balanced_columnEquals {column : String} (h : Plain column) (arg : Scalar) :
    (columnEquals column arg).Balanced := by
  unfold columnEquals
  rw [Fragment.balanced_append_right (Fragment.balanced_argument arg)]
  simp +decide [h]

theorem Rows.splitsInto_sql (rows : Rows) (ht : Plain rows.table)
    (hj : ∀ join ∈ rows.joins, join.Balanced) (hc : ∀ c ∈ rows.conditions, c.Balanced) :
    rows.sql.SplitsInto (rows.joins ++ rows.conditions) := by
  unfold Rows.sql
  have hjoins := Fragment.SplitsInto.concat_map " " (by decide) hj
  have htable : Plain (" FROM " ++ rows.table) := Text.plain_append.2 ⟨by decide, ht⟩
  exact (hjoins.text_append htable).append (.whereClause hc)

theorem splitsInto_insertInto {table : String} {plans : List (FieldPlan EntityRole)}
    (ht : Plain table) (hp : ∀ plan ∈ plans, Plain plan.column) (rows : List (List Scalar)) :
    (insertInto table plans rows).SplitsInto (rows.map Fragment.argumentList) := by
  unfold insertInto
  have hhead : Plain ("INSERT INTO " ++ table ++ " (" ++ columnList plans ++ ") VALUES ") := by
    simp +decide [ht, plain_columnList hp]
  have hrows : ∀ row ∈ rows.map Fragment.argumentList, row.Balanced := by
    intro row hm
    obtain ⟨args, -, rfl⟩ := List.mem_map.1 hm
    exact Fragment.balanced_argumentList args
  exact (Fragment.SplitsInto.joinWith (by decide) hrows).text_append hhead

theorem splitsInto_updateOf {table : String} {assignments conditions : List Fragment}
    (ht : Plain table) (ha : ∀ a ∈ assignments, a.Balanced) (hc : ∀ c ∈ conditions, c.Balanced) :
    (updateOf table assignments conditions).SplitsInto (assignments ++ conditions) := by
  unfold updateOf
  have hhead : Plain ("UPDATE " ++ table ++ " SET ") := by simp +decide [ht]
  exact ((Fragment.SplitsInto.joinWith (by decide) ha).text_append hhead).append (.whereClause hc)

/-! ## Criteria objects -/

/-- A statement that a page is cut out of, in the given pieces. -/
def Fragment.CutFrom (s : Settings) (pieces : List Fragment) (f : Fragment) : Prop :=
  ∃ (page : Page) (whole : Fragment), whole.SplitsInto pieces ∧ page.cut s whole = f

theorem Fragment.SplitsInto.cutFrom {pieces : List Fragment} {f : Fragment}
    (h : f.SplitsInto pieces) : f.CutFrom s pieces := ⟨.all, f, h, rfl⟩

namespace Query

variable {q : Query} {schema : CriteriaSchema}

theorem plain_table_of_render (ht : q.type.PlainCriteria) (hschema : q.schema s = .ok schema)
    {record : Record} {table : String} (h : schema.table.render record = .ok table) :
    Plain table := by
  obtain ⟨names, hb⟩ := RecordType.criteriaSchema_built hschema
  exact Template.plain_render hb.table ht.table h

theorem balanced_conditions (hs : s.Plain) (ht : q.type.PlainCriteria)
    (hschema : q.schema s = .ok schema) {record : Record} {taken : Option Template}
    {cs : List Fragment} (h : schema.conditions s record taken = .ok cs) :
    ∀ c ∈ cs, c.Balanced := by
  obtain ⟨names, hb⟩ := RecordType.criteriaSchema_built hschema
  exact CriteriaSchema.balanced_conditions hs (fun plan hp => hb.plain_field ht hp) h

/-- The join clauses that a query uses are made from plain texts. -/
def PlainJoins (joins : List Template) : Prop :=
  ∀ join ∈ joins, ∃ source, Plain source ∧ Template.parse .join source = .ok join

theorem plainJoins_own (ht : q.type.PlainCriteria) (hschema : q.schema s = .ok schema) :
    PlainJoins schema.join.toList := by
  obtain ⟨names, hb⟩ := RecordType.criteriaSchema_built hschema
  exact fun join hj => hb.plain_join ht hj

theorem splitsInto_rows (hs : s.Plain) (ht : q.type.PlainCriteria)
    (hschema : q.schema s = .ok schema) {joins : List Template} (hj : PlainJoins joins)
    {taken : Option Template} {rows : Rows} (h : q.rows s schema joins taken = .ok rows) :
    rows.sql.SplitsInto (rows.joins ++ rows.conditions) := by
  obtain ⟨record, -, table, htable, bound, hbound, cs, hcs, rfl⟩ := rows_eq_ok.1 h
  refine Rows.splitsInto_sql _ (plain_table_of_render ht hschema htable) ?_
    (balanced_conditions hs ht hschema hcs)
  intro join hm
  obtain ⟨t, ht, hbind⟩ := exists_of_mem_mapM hbound hm
  obtain ⟨source, hsource, hparse⟩ := hj t ht
  exact Template.balanced_bind hparse hsource hbind

theorem cutFrom_selectOver (hs : s.Plain) (ht : q.type.PlainCriteria) {columns : List String}
    (hc : ∀ column ∈ columns, Plain column) {extra : Option Template}
    (he : PlainJoins extra.toList) (h : q.selectOver s columns extra = .ok f) :
    ∃ pieces, q.pieces s (·.join.toList ++ extra.toList) extra = .ok pieces ∧
      f.CutFrom s pieces := by
  obtain ⟨schema, hschema, rows, hrows, order, horder, rfl⟩ := selectOver_eq_ok.1 h
  obtain ⟨names, hb⟩ := RecordType.criteriaSchema_built hschema
  have hjoins : PlainJoins (schema.join.toList ++ extra.toList) := by
    intro join hm
    rcases List.mem_append.1 hm with hm | hm
    · exact plainJoins_own ht hschema join hm
    · exact he join hm
  have hsql := splitsInto_rows hs ht hschema hjoins hrows
  have hgroup := plain_optionalClause " GROUP BY " (by decide) (hb.plain_groupBy ht)
  have hbody : ∀ body ∈ order, Plain body := fun body hm => Page.plain_orderBy (hm ▸ horder)
  have hsort := plain_optionalClause " ORDER BY " (by decide) hbody
  have hhead : Plain ("SELECT " ++ selectList columns) := by
    simp +decide [plain_selectList hc]
  refine ⟨rows.joins ++ rows.conditions, ?_, q.page, _, ?_, rfl⟩
  · simp only [pieces, bind_eq_ok, pure_eq_ok]
    exact ⟨schema, hschema, rows, hrows, rfl⟩
  · exact ((hsql.text_append hhead).append_text hgroup).append_text hsort

/-- Without a further join clause the pieces begin with the join clause of the type. -/
theorem cutFrom_selectOver_none (hs : s.Plain) (ht : q.type.PlainCriteria) {columns : List String}
    (hc : ∀ column ∈ columns, Plain column) (h : q.selectOver s columns none = .ok f) :
    ∃ pieces, q.pieces s (·.join.toList) none = .ok pieces ∧ f.CutFrom s pieces := by
  have hnone : PlainJoins (none : Option Template).toList := fun join hm => nomatch hm
  have hcut := cutFrom_selectOver hs ht hc hnone h
  simpa only [Option.toList_none, List.append_nil] using hcut

theorem cutFrom_count (hs : s.Plain) (ht : q.type.PlainCriteria) (h : q.count s = .ok f) :
    ∃ pieces, q.pieces s (·.join.toList) none = .ok pieces ∧ f.CutFrom s pieces := by
  obtain ⟨schema, hschema, rows, hrows, rfl⟩ := count_eq_ok.1 h
  obtain ⟨names, hb⟩ := RecordType.criteriaSchema_built hschema
  have hsql := splitsInto_rows hs ht hschema (plainJoins_own ht hschema) hrows
  have hhead : Plain ("SELECT " ++ countExpr schema.groupBy) := by
    simp +decide [plain_countExpr (hb.plain_groupBy ht)]
  refine ⟨rows.joins ++ rows.conditions, ?_, (hsql.text_append hhead).cutFrom⟩
  simp only [pieces, bind_eq_ok, pure_eq_ok]
  exact ⟨schema, hschema, rows, hrows, rfl⟩

theorem cutFrom_delete (hs : s.Plain) (ht : q.type.PlainCriteria) (h : q.delete s = .ok f) :
    ∃ pieces, q.pieces s (fun _ => []) none = .ok pieces ∧ f.CutFrom s pieces := by
  obtain ⟨schema, hschema, rows, hrows, rfl⟩ := delete_eq_ok.1 h
  have hnone : PlainJoins [] := fun join hm => nomatch hm
  have hsql := splitsInto_rows hs ht hschema hnone hrows
  refine ⟨rows.joins ++ rows.conditions, ?_, q.page, _, hsql.text_append (by decide), rfl⟩
  simp only [pieces, bind_eq_ok, pure_eq_ok]
  exact ⟨schema, hschema, rows, hrows, rfl⟩

end Query

/-! ## Entities -/

namespace Entity

variable {type : RecordType} {schema : EntitySchema}

theorem plain_table_of_render (ht : type.PlainEntity) (hschema : type.asEntity s = .ok schema)
    {record : Record} {table : String} (h : schema.table.render record = .ok table) :
    Plain table := by
  obtain ⟨names, hb⟩ := RecordType.entitySchema_built hschema
  exact Template.plain_render hb.table ht.table h

theorem plain_column (ht : type.PlainEntity) (hschema : type.asEntity s = .ok schema)
    {plan : FieldPlan EntityRole} (hp : plan ∈ schema.columns) :
    Plain plan.name ∧ Plain plan.column := by
  obtain ⟨names, hb⟩ := RecordType.entitySchema_built hschema
  exact hb.plain_column ht (List.mem_filter.1 hp).1

theorem plain_selectList (ht : type.PlainEntity) (hschema : type.asEntity s = .ok schema) :
    Plain schema.selectList := by
  refine Text.plain_intercalate (by decide) fun item hm => ?_
  obtain ⟨plan, hp, rfl⟩ := List.mem_map.1 hm
  obtain ⟨hname, hcolumn⟩ := plain_column ht hschema hp
  unfold FieldPlan.selected
  split
  · exact hcolumn
  · simp +decide [hname, hcolumn]

theorem balanced_idCondition (ht : type.PlainEntity) (hschema : type.asEntity s = .ok schema)
    (arg : Scalar) : (columnEquals schema.idColumn arg).Balanced := by
  obtain ⟨names, hb⟩ := RecordType.entitySchema_built hschema
  exact balanced_columnEquals (hb.plain_idColumn ht) arg

theorem balanced_assignments (ht : type.PlainEntity) (hschema : type.asEntity s = .ok schema)
    {record : Record} {presentOnly : Bool} {sets : List Fragment}
    (h : schema.assignments record presentOnly = .ok sets) : ∀ a ∈ sets, a.Balanced := by
  simp only [EntitySchema.assignments, bind_eq_ok] at h
  obtain ⟨found, hf, h⟩ := h
  split at h
  · cases h
  rw [pure_eq_ok] at h
  subst h
  intro a ha
  obtain ⟨plan, hp, hplan⟩ := exists_of_mem_mapM hf ha
  obtain ⟨arg, -, rfl⟩ := map_eq_ok.1 hplan
  exact balanced_columnEquals (plain_column ht hschema (List.mem_filter.1 hp).1).2 arg

theorem plain_reuse (ht : type.PlainEntity) (hschema : type.asEntity s = .ok schema)
    {name update : String} (h : schema.reuse name = .ok update) : Plain update := by
  unfold EntitySchema.reuse at h
  split at h
  next plan hplan =>
    cases h
    rw [Option.filter_eq_some_iff] at hplan
    have hp : plan ∈ schema.columns :=
      List.mem_filter.2 ⟨List.mem_of_find?_eq_some hplan.1, hplan.2⟩
    simp +decide [(plain_column ht hschema hp).2]
  · cases h

theorem plain_onDuplicate {updates : List String} (h : ∀ update ∈ updates, Plain update) :
    Plain (onDuplicate updates) := by
  unfold onDuplicate
  split
  · decide
  · exact Text.plain_append.2 ⟨by decide, Text.plain_intercalate (by decide) h⟩

theorem cutFrom_create {e : Entity} (ht : e.type.PlainEntity) (h : e.create s = .ok f) :
    ∃ pieces, (Request.create e).pieces s = .ok pieces ∧ f.CutFrom s pieces := by
  obtain ⟨schema, hschema, record, hrecord, args, hargs, table, htable, rfl⟩ := create_eq_ok.1 h
  have hcolumns : ∀ plan ∈ schema.insertColumns record, Plain plan.column :=
    fun plan hp => (plain_column ht hschema (List.mem_filter.1 hp).1).2
  refine ⟨[Fragment.argumentList args], ?_, Fragment.SplitsInto.cutFrom ?_⟩
  · simp only [Request.pieces, bind_eq_ok, pure_eq_ok]
    exact ⟨schema, hschema, record, hrecord, args, hargs, rfl⟩
  · exact splitsInto_insertInto (plain_table_of_render ht hschema htable) hcolumns [args]

theorem cutFrom_createBatch {values : List Datum} {updateColumns : List String}
    (ht : type.PlainEntity) (h : createBatch type values s updateColumns = .ok (some f)) :
    ∃ pieces, (Request.createBatch type values updateColumns).pieces s = .ok pieces ∧
      f.CutFrom s pieces := by
  cases values with
  | nil => cases h
  | cons first values =>
    obtain ⟨schema, hschema, record, -, table, htable, rows, hrows, updates, hupdates, h⟩ :=
      createBatch_cons_eq_ok.1 h
    cases h
    have hcolumns : ∀ plan ∈ schema.batchColumns, Plain plan.column :=
      fun plan hp => (plain_column ht hschema (List.mem_filter.1 hp).1).2
    have htail : Plain (onDuplicate updates) := by
      refine plain_onDuplicate fun update hm => ?_
      obtain ⟨name, -, hname⟩ := exists_of_mem_mapM hupdates hm
      exact plain_reuse ht hschema hname
    have hinsert := splitsInto_insertInto (plain_table_of_render ht hschema htable) hcolumns rows
    refine ⟨rows.map Fragment.argumentList, ?_, (hinsert.append_text htail).cutFrom⟩
    simp only [Request.pieces, bind_eq_ok, pure_eq_ok]
    exact ⟨schema, hschema, rows, hrows, rfl⟩

theorem cutFrom_updateById {e : Entity} (ht : e.type.PlainEntity) {presentOnly : Bool}
    (h : e.updateById s presentOnly = .ok f) :
    ∃ pieces, e.updatePieces s presentOnly = .ok pieces ∧ f.CutFrom s pieces := by
  obtain ⟨schema, hschema, record, hrecord, sets, hsets, table, htable, id, hid, rfl⟩ :=
    updateById_eq_ok.1 h
  have hcondition : ∀ c ∈ [columnEquals schema.idColumn id], c.Balanced := by
    intro c hm
    rw [List.mem_singleton.1 hm]
    exact balanced_idCondition ht hschema id
  refine ⟨sets ++ [columnEquals schema.idColumn id], ?_, Fragment.SplitsInto.cutFrom ?_⟩
  · simp only [updatePieces, bind_eq_ok, pure_eq_ok]
    exact ⟨schema, hschema, record, hrecord, sets, hsets, id, hid, rfl⟩
  · exact splitsInto_updateOf (plain_table_of_render ht hschema htable)
      (balanced_assignments ht hschema hsets) hcondition

theorem cutFrom_patchByQuery {e : Entity} {q : Query} (hs : s.Plain) (ht : e.type.PlainEntity)
    (hq : q.type.PlainCriteria) (h : e.patchByQuery s q = .ok f) :
    ∃ pieces, (Request.patchByQuery e q).pieces s = .ok pieces ∧ f.CutFrom s pieces := by
  obtain ⟨schema, hschema, record, hrecord, sets, hsets, table, htable, criteria, hcriteria,
    values, hvalues, cs, hcs, rfl⟩ := patchByQuery_eq_ok.1 h
  refine ⟨sets ++ cs, ?_, Fragment.SplitsInto.cutFrom ?_⟩
  · simp only [Request.pieces, bind_eq_ok, pure_eq_ok]
    exact ⟨schema, hschema, record, hrecord, sets, hsets, criteria, hcriteria, values, hvalues,
      cs, hcs, rfl⟩
  · exact splitsInto_updateOf (plain_table_of_render ht hschema htable)
      (balanced_assignments ht hschema hsets) (Query.balanced_conditions hs hq hcriteria hcs)

end Entity

namespace RecordType

variable {type : RecordType} {id : Id}

theorem splitsInto_idRows {table column : String} (ht : Plain table) (hc : Plain column)
    (arg : Scalar) :
    (Rows.sql ⟨table, [], [columnEquals column arg]⟩).SplitsInto [columnEquals column arg] := by
  refine Rows.splitsInto_sql ⟨table, [], [columnEquals column arg]⟩ ht ?_ ?_
  · intro join hm
    cases hm
  · intro c hm
    rw [List.mem_singleton.1 hm]
    exact balanced_columnEquals hc arg

theorem cutFrom_deleteById (ht : type.PlainEntity) (h : type.deleteById s id = .ok f) :
    ∃ pieces, type.idPieces s id = .ok pieces ∧ f.CutFrom s pieces := by
  obtain ⟨schema, hschema, record, -, table, htable, rfl⟩ := deleteById_eq_ok.1 h
  obtain ⟨names, hb⟩ := entitySchema_built hschema
  have hsql := splitsInto_idRows (Entity.plain_table_of_render ht hschema htable)
    (hb.plain_idColumn ht) id.value
  refine ⟨[columnEquals schema.idColumn id.value], ?_, (hsql.text_append (by decide)).cutFrom⟩
  simp only [idPieces, bind_eq_ok, pure_eq_ok]
  exact ⟨schema, hschema, rfl⟩

theorem cutFrom_selectById {columns : List String} (ht : type.PlainEntity)
    (hc : ∀ column ∈ columns, Plain column) (h : type.selectById s id columns = .ok f) :
    ∃ pieces, type.idPieces s id = .ok pieces ∧ f.CutFrom s pieces := by
  obtain ⟨schema, hschema, record, -, table, htable, rfl⟩ := selectById_eq_ok.1 h
  obtain ⟨names, hb⟩ := entitySchema_built hschema
  have hlist : Plain (schema.byIdList columns) := by
    unfold EntitySchema.byIdList
    split
    · exact Entity.plain_selectList ht hschema
    · exact Text.plain_intercalate (by decide) hc
  have hhead : Plain ("SELECT " ++ schema.byIdList columns) :=
    Text.plain_append.2 ⟨by decide, hlist⟩
  have hsql := splitsInto_idRows (Entity.plain_table_of_render ht hschema htable)
    (hb.plain_idColumn ht) id.value
  refine ⟨[columnEquals schema.idColumn id.value], ?_, (hsql.text_append hhead).cutFrom⟩
  simp only [idPieces, bind_eq_ok, pure_eq_ok]
  exact ⟨schema, hschema, rfl⟩

end RecordType

/-! ## Relations -/

namespace Related

variable {owner joined : RecordType} {field columns ownerTable : String}

theorem balanced_head (hc : Plain columns) (id : Scalar) : (head columns id).Balanced := by
  have htail : Plain (" AS " ++ keyColumn ++ ", " ++ columns) := by simp +decide [hc]
  have hsplit := ((Fragment.SplitsInto.single (Fragment.balanced_argument id)).text_append
    (t := "SELECT ") (by decide)).append_text htail
  rw [Fragment.ofText_append, Fragment.ofText_append, Fragment.ofText_append,
    ← Fragment.append_assoc, ← Fragment.append_assoc, ← Fragment.append_assoc] at hsplit
  exact hsplit.balanced

theorem balanced_directClause (hs : s.Plain) (hc : Plain columns) (ho : Plain ownerTable)
    {domain foreignKey : String} (hd : Plain domain) (hk : Plain foreignKey)
    (cardinality : Cardinality) (id : Scalar) :
    (directClause s columns ownerTable domain foreignKey cardinality id).Balanced := by
  have hhead := balanced_head hc id
  have htable := hs.plain_table hd
  cases cardinality with
  | one =>
    have hid := Fragment.balanced_argument id
    simp +decide [directClause, hhead, hid, htable, hk, ho]
  | many =>
    have hid := balanced_columnEquals hk id
    simp +decide [directClause, hhead, hid, htable]

theorem balanced_joinedClause (hc : Plain columns) {target : String} (ht : Plain target) {hop : Hop}
    {hops : List Hop} (hh : ∀ step ∈ hop :: hops, step.Plain) (id : Scalar) :
    (joinedClause columns target hop hops id).Balanced := by
  have hsource := balanced_columnEquals (hh hop List.mem_cons_self).source id
  have hpath := Condition.balanced_pathQuery hsource hh
  simp +decide [joinedClause, balanced_head hc id, ht, hpath]

theorem balanced_relationClause (hs : s.Plain) (hc : Plain columns) (ho : Plain ownerTable)
    {relation : Relation} (hd : ∀ domain ∈ relation.path.domains, Plain domain)
    (hk : ∀ key ∈ relation.path.foreignKey, Plain key) {clause : ByOwner}
    (h : relationClause s field columns ownerTable relation = .ok clause) (id : Scalar) :
    (clause id).Balanced := by
  unfold relationClause at h
  split at h
  · cases h
  next domain heq =>
    split at h
    next foreignKey hkey =>
      cases h
      exact balanced_directClause hs hc ho (hd domain (by simp [heq])) (hk _ hkey) _ id
    · cases h
  next first _ _ heq =>
    simp only [bind_eq_ok, pure_eq_ok] at h
    obtain ⟨⟨hop, hops⟩, hsteps, rfl⟩ := h
    rw [ExpandedPath.steps_eq_ok] at hsteps
    have hexpand := DomainPath.plain_expand hs hd (readsFromEnd s ownerTable first)
    exact balanced_joinedClause hc hexpand.targetTable (hexpand.hops hsteps) id

theorem balanced_restrict (hd : s.dialect.KeepsPlaceholders) {page : Page} {order : Option String}
    (ho : ∀ body ∈ order, Plain body) {cs : List Fragment} (hc : ∀ c ∈ cs, c.Balanced)
    {clause : Fragment} (h : clause.Balanced) : (restrict s page order cs clause).Balanced := by
  have hand := (Fragment.SplitsInto.concat_map " AND " (by decide) hc).balanced
  have hsort := plain_optionalClause " ORDER BY " (by decide) ho
  have hcut := page.balanced_cut hd
    ((h.append hand).append (Fragment.balanced_ofText.2 hsort))
  unfold restrict
  dsimp only
  split
  · exact hcut.parenthesized
  · exact hcut

/-- The clauses of the owners are balanced, under a filter as well. -/
theorem balanced_ownerClause (hs : s.Plain) (hd : s.dialect.KeepsPlaceholders)
    (ho : owner.PlainEntity) (hj : joined.PlainEntity) {filter : Option Filter}
    (hf : ∀ fl ∈ filter, ∀ plan ∈ fl.schema.fields, plan.Plain) {clause : ByOwner}
    (h : ownerClause s owner joined field filter = .ok clause) (id : Scalar) :
    (clause id).Balanced := by
  obtain ⟨ownerSchema, howner, relation, hrelation, joinedSchema, hjoined, ownerTable, htable,
    base, hbase, within, hwithin, rfl⟩ := ownerClause_eq_ok.1 h
  obtain ⟨names, hb⟩ := RecordType.entitySchema_built howner
  obtain ⟨hdomains, hkey⟩ := hb.plain_relation ho hrelation
  have hclause := balanced_relationClause hs (Entity.plain_selectList hj hjoined)
    (Entity.plain_table_of_render ho howner htable) hdomains hkey hbase id
  cases filter with
  | none =>
    cases hwithin
    exact hclause
  | some fl =>
    obtain ⟨cs, hcs, order, horder, rfl⟩ := filter_apply_eq_ok.1 hwithin
    exact balanced_restrict hd (fun body hm => Page.plain_orderBy (hm ▸ horder))
      (CriteriaSchema.balanced_conditions hs (hf fl rfl) hcs) hclause

theorem cutFrom_statement (hs : s.Plain) (hd : s.dialect.KeepsPlaceholders)
    (ho : owner.PlainEntity) (hj : joined.PlainEntity) {filter : Option Filter}
    (hf : ∀ fl ∈ filter, ∀ plan ∈ fl.schema.fields, plan.Plain) {ids : List Scalar}
    (h : Related.statement s owner joined field ids filter = .ok (some f)) :
    ∃ pieces, Related.pieces s owner joined field ids filter = .ok pieces ∧
      f.CutFrom s pieces := by
  obtain ⟨-, hnone⟩ | ⟨-, clause, hclause, hsome⟩ := statement_eq_ok.1 h
  · cases hnone
  cases hsome
  have hall : ∀ piece ∈ ids.map clause, piece.Balanced := by
    intro piece hm
    obtain ⟨id, -, rfl⟩ := List.mem_map.1 hm
    exact balanced_ownerClause hs hd ho hj hf hclause id
  refine ⟨ids.map clause, ?_, (Fragment.SplitsInto.joinWith (by decide) hall).cutFrom⟩
  simp only [Related.pieces, bind_eq_ok, pure_eq_ok]
  exact ⟨clause, hclause, rfl⟩

end Related

/-! ## Every request -/

namespace Request

/-- The texts that a developer gives with a request are plain, apart from conditions as written. -/
def Plain : Request → Prop
  | select q columns => q.type.PlainCriteria ∧ ∀ column ∈ columns, Text.Plain column
  | selectId q | count q | delete q => q.type.PlainCriteria
  | selectJoined q join columns =>
    q.type.PlainCriteria ∧ Text.Plain join ∧ ∀ column ∈ columns, Text.Plain column
  | create e | update e | patchById e => e.type.PlainEntity
  | createBatch type _ _ | deleteById type _ => type.PlainEntity
  | patchByQuery e q => e.type.PlainEntity ∧ q.type.PlainCriteria
  | selectById type _ columns => type.PlainEntity ∧ ∀ column ∈ columns, Text.Plain column
  | related owner joined _ _ => owner.PlainEntity ∧ joined.PlainEntity
  | relatedWhere owner joined q _ _ =>
    owner.PlainEntity ∧ joined.PlainEntity ∧ q.type.PlainCriteria

variable {request : Request}

theorem map_some_eq_ok {x : Except Error Statement} :
    x.map some = .ok (some f) ↔ x = .ok f := by
  rw [map_eq_ok]
  constructor
  · intro ⟨g, hg, he⟩
    rw [hg, Option.some.inj he]
  · intro h
    exact ⟨f, h, rfl⟩

/-- Where a request gives a statement it has pieces, and the statement is cut from them. -/
theorem cutFrom_pieces (hs : s.Plain) (hd : s.dialect.KeepsPlaceholders) (hr : request.Plain)
    (h : request.statement s = .ok (some f)) :
    ∃ pieces, request.pieces s = .ok pieces ∧ f.CutFrom s pieces := by
  cases request with
  | select q columns => exact Query.cutFrom_selectOver_none hs hr.1 hr.2 (map_some_eq_ok.1 h)
  | selectId q =>
    have hid : ∀ column ∈ ["id"], Text.Plain column := by decide
    exact Query.cutFrom_selectOver_none hs hr hid (map_some_eq_ok.1 h)
  | selectJoined q join columns =>
    obtain ⟨hq, hjoin, hc⟩ := hr
    obtain ⟨t, ht, hover⟩ := Query.selectJoined_eq_ok.1 (map_some_eq_ok.1 h)
    have hextra : Query.PlainJoins (some t).toList := by
      intro u hm
      rw [Option.toList_some, List.mem_singleton] at hm
      exact ⟨join, hjoin, hm ▸ ht⟩
    obtain ⟨pieces, hpieces, hcut⟩ := Query.cutFrom_selectOver hs hq hc hextra hover
    refine ⟨pieces, ?_, hcut⟩
    simp only [Request.pieces, bind_eq_ok]
    exact ⟨t, ht, hpieces⟩
  | count q => exact Query.cutFrom_count hs hr (map_some_eq_ok.1 h)
  | delete q => exact Query.cutFrom_delete hs hr (map_some_eq_ok.1 h)
  | create e => exact Entity.cutFrom_create hr (map_some_eq_ok.1 h)
  | createBatch type values updateColumns => exact Entity.cutFrom_createBatch hr h
  | update e => exact Entity.cutFrom_updateById hr (map_some_eq_ok.1 h)
  | patchById e => exact Entity.cutFrom_updateById hr (map_some_eq_ok.1 h)
  | patchByQuery e q => exact Entity.cutFrom_patchByQuery hs hr.1 hr.2 (map_some_eq_ok.1 h)
  | deleteById type id => exact RecordType.cutFrom_deleteById hr (map_some_eq_ok.1 h)
  | selectById type id columns =>
    exact RecordType.cutFrom_selectById hr.1 hr.2 (map_some_eq_ok.1 h)
  | related owner joined field ids =>
    have hfilter :
        ∀ fl ∈ (none : Option Related.Filter), ∀ plan ∈ fl.schema.fields, plan.Plain := by
      intro fl hm
      cases hm
    exact Related.cutFrom_statement hs hd hr.1 hr.2 hfilter h
  | relatedWhere owner joined q field ids =>
    obtain ⟨ho, hj, hq⟩ := hr
    obtain ⟨schema, hschema, record, hrecord, hstatement⟩ := RecordType.relatedWhere_eq_ok.1 h
    obtain ⟨names, hb⟩ := RecordType.criteriaSchema_built hschema
    have hfilter : ∀ fl ∈ some (Related.Filter.mk schema record q.page),
        ∀ plan ∈ fl.schema.fields, plan.Plain := by
      intro fl hm plan hp
      cases hm
      exact hb.plain_field hq hp
    obtain ⟨pieces, hpieces, hcut⟩ := Related.cutFrom_statement hs hd ho hj hfilter hstatement
    refine ⟨pieces, ?_, hcut⟩
    simp only [Request.pieces, bind_eq_ok]
    exact ⟨schema, hschema, record, hrecord, hpieces⟩

/-- Placeholder balance. A statement has as many placeholders as arguments. Its arguments are those
    of its pieces in order, and each piece has as many placeholders as arguments; under a dialect
    that only puts texts around a statement, its text is that of the pieces in order with plain
    texts around them. -/
theorem placeholders_eq_length_args (hs : s.Plain) (hd : s.dialect.KeepsPlaceholders)
    (hr : request.Plain) (h : request.statement s = .ok (some f)) :
    f.placeholders = f.args.length ∧ ∃ pieces, request.pieces s = .ok pieces ∧
      f.args = pieces.flatMap Fragment.args ∧ (∀ piece ∈ pieces, piece.Balanced) ∧
      (s.dialect.Frames → f.SplitsInto pieces) := by
  obtain ⟨pieces, hpieces, page, whole, hwhole, rfl⟩ := cutFrom_pieces hs hd hr h
  refine ⟨page.balanced_cut hd hwhole.balanced, pieces, hpieces, ?_, ?_, ?_⟩
  · rw [Page.args_cut, hwhole.args_eq]
  · intro piece hm
    exact hwhole.balanced_of_mem hm
  · intro hframes
    exact page.splitsInto_cut hframes hwhole

set_option maxRecDepth 20000 in
theorem balanced_select_ofAge :
    ∃ f, (select (.ofAge "3") []).statement .default = .ok (some f) ∧
      f.placeholders = f.args.length ∧
      ∃ pieces, (select (.ofAge "3") []).pieces .default = .ok pieces ∧
      f.args = pieces.flatMap Fragment.args ∧ (∀ piece ∈ pieces, piece.Balanced) ∧
      (Settings.default.dialect.Frames → f.SplitsInto pieces) := by
  have hstatement : (select (.ofAge "3") []).statement .default =
      .ok (some ⟨"SELECT * FROM user WHERE age = ?", [.text "3"]⟩) := by cbv
  have hsettings : Settings.default.Plain := ⟨by decide, by decide, by decide⟩
  have htype : (Query.ofAge "3").type.PlainCriteria :=
    ⟨⟨by decide, by decide, fun _ hm => absurd hm List.not_mem_nil⟩, by decide, by decide⟩
  exact ⟨_, hstatement, placeholders_eq_length_args hsettings
    (Dialect.frames_builtIn .limitOffset).keepsPlaceholders ⟨htype, by decide⟩ hstatement⟩

end Request

end CriteriaSql
