/-
  What restricts the rows. SELECT restricts rows by its join clause and its conditions; DELETE,
  UPDATE by query and the clauses of related entities have the conditions only. The fields that
  the join clause of a type takes pose no condition, so these statements restrict rows as the
  SELECT does exactly where the join clause takes no field.
-/
import CriteriaSql.Proofs.Pieces
import CriteriaSql.Proofs.Request
import CriteriaSql.Proofs.Schemas
import Mathlib

namespace CriteriaSql

variable {s : Settings} {f : Statement}

/-! ## Arguments of clauses -/

@[simp] theorem Fragment.args_concat (lead : String) (fs : List Fragment) :
    (concat (fs.map fun f => lead ++ f)).args = fs.flatMap args := by
  induction fs with
  | nil => rfl
  | cons f fs ih =>
    rw [List.map_cons, concat, args_append, ih, args_append, args_ofText, List.nil_append,
      List.flatMap_cons]

@[simp] theorem args_whereClause (cs : List Fragment) :
    (whereClause cs).args = cs.flatMap Fragment.args := by
  unfold whereClause
  split
  · rfl
  · rw [Fragment.args_append, Fragment.args_joinWith, Fragment.args_ofText, List.nil_append]

@[simp] theorem Rows.args_sql (rows : Rows) :
    rows.sql.args = rows.joins.flatMap Fragment.args ++ rows.conditions.flatMap Fragment.args := by
  simp [Rows.sql]

@[simp] theorem args_updateOf (table : String) (assignments conditions : List Fragment) :
    (updateOf table assignments conditions).args =
      assignments.flatMap Fragment.args ++ conditions.flatMap Fragment.args := by
  simp [updateOf, Fragment.args_joinWith]

/-! ## Join clauses -/

theorem Template.args_bindSegment {t : Template} {record : Record} {segment : Segment}
    {f : Fragment} (h : t.bindSegment record segment = .ok f) :
    List.Forall₂ (fun name arg => (record.get name).bind name .ordinal = .ok arg)
      segment.field?.toList f.args := by
  cases segment with
  | literal text =>
    cases h
    exact .nil
  | field name =>
    simp only [bindSegment] at h
    split at h
    · cases h
    · obtain ⟨arg, harg, rfl⟩ := map_eq_ok.1 h
      exact .cons harg .nil

/-- The arguments of a join clause are the values of its fields, bound by number. -/
theorem Template.args_bind {t : Template} {record : Record} {f : Fragment}
    (h : t.bind record = .ok f) :
    List.Forall₂ (fun name arg => (record.get name).bind name .ordinal = .ok arg) t.fieldNames
      f.args := by
  obtain ⟨parts, hparts, hf⟩ := bind_eq_ok.1 h
  rw [pure_eq_ok] at hf
  subst hf
  rw [fieldNames, List.filterMap_eq_flatMap_toList]
  rw [mapM_eq_ok] at hparts
  clear h
  generalize t.segments = segments at hparts
  induction hparts with
  | nil => exact .nil
  | cons hpart _ ih =>
    rw [List.flatMap_cons, Fragment.concat, Fragment.args_append]
    exact List.rel_append (args_bindSegment hpart) ih

/-- A join clause has an argument for each of its fields. -/
theorem Template.length_args_bind {t : Template} {record : Record} {f : Fragment}
    (h : t.bind record = .ok f) : f.args.length = t.fieldNames.length :=
  (args_bind h).length_eq.symm

/-- The join clause of a type has an argument for each field that the type's text names. -/
theorem CriteriaSchema.Built.length_args_join {type : RecordType} {mapCamelCase : Bool}
    {names : List String} {schema : CriteriaSchema} (h : schema.Built type mapCamelCase names)
    {record : Record} {joins : List Fragment}
    (hj : schema.join.toList.mapM (·.bind record) = .ok joins) :
    (joins.flatMap Fragment.args).length = type.joinFields.length := by
  unfold RecordType.joinFields
  obtain ⟨bound, hbound, rfl⟩ := toList_mapM_eq_ok.1 hj
  obtain ⟨hnone, hjoin⟩ | ⟨source, t, hsource, hjoin, hparse⟩ := option_mapM_eq_ok.1 h.join
  · rw [hjoin, Option.mapM_none, pure_eq_ok] at hbound
    rw [hnone, ← hbound]
    rfl
  · rw [hjoin, option_mapM_eq_ok] at hbound
    obtain ⟨hnone, -⟩ | ⟨own, f, hown, rfl, hf⟩ := hbound
    · cases hnone
    · cases hown
      rw [hsource, Option.toList_some, List.flatMap_singleton, Template.length_args_bind hf,
        Template.fieldNames_of_parse hparse]
      rfl

/-! ## Statements -/

/-- The arguments of the conditions that a query poses where no join clause is written. -/
def Query.conditionArgs (q : Query) (s : Settings) : Except Error (List Scalar) := do
  let schema ← q.schema s
  let record ← q.record
  let conditions ← schema.conditions s record none
  pure (conditions.flatMap Fragment.args)

/-- The arguments of the assignments of the columns that have a value. -/
def Entity.setArgs (e : Entity) (s : Settings) : Except Error (List Scalar) := do
  let schema ← e.type.asEntity s
  let record ← e.record
  let sets ← schema.assignments record true
  pure (sets.flatMap Fragment.args)

theorem Query.conditionArgs_of {q : Query} {schema : CriteriaSchema} {record : Record}
    {conditions : List Fragment} (hschema : q.schema s = .ok schema)
    (hrecord : q.record = .ok record) (hc : schema.conditions s record none = .ok conditions) :
    q.conditionArgs s = .ok (conditions.flatMap Fragment.args) := by
  simp only [conditionArgs, bind_eq_ok, pure_eq_ok]
  exact ⟨schema, hschema, record, hrecord, conditions, hc, rfl⟩

theorem Entity.setArgs_of {e : Entity} {schema : EntitySchema} {record : Record}
    {sets : List Fragment} (hschema : e.type.asEntity s = .ok schema)
    (hrecord : e.record = .ok record) (hsets : schema.assignments record true = .ok sets) :
    e.setArgs s = .ok (sets.flatMap Fragment.args) := by
  simp only [setArgs, bind_eq_ok, pure_eq_ok]
  exact ⟨schema, hschema, record, hrecord, sets, hsets, rfl⟩

/-- The arguments of a SELECT are those of its join clauses and then those of its conditions. -/
theorem Query.args_selectOver {q : Query} {columns : List String} {extra : Option Template}
    (h : q.selectOver s columns extra = .ok f) :
    ∃ schema record joins conditions, q.schema s = .ok schema ∧ q.record = .ok record ∧
      (schema.join.toList ++ extra.toList).mapM (·.bind record) = .ok joins ∧
      schema.conditions s record extra = .ok conditions ∧
      f.args = joins.flatMap Fragment.args ++ conditions.flatMap Fragment.args := by
  obtain ⟨schema, hschema, rows, hrows, order, -, rfl⟩ := selectOver_eq_ok.1 h
  obtain ⟨record, hrecord, table, -, joins, hjoins, cs, hcs, rfl⟩ := rows_eq_ok.1 hrows
  refine ⟨schema, record, joins, cs, hschema, hrecord, hjoins, hcs, ?_⟩
  rw [Page.args_cut]
  simp

/-- The arguments of a SELECT are those of its join clause, one for each field that the clause
    takes, and then those of the conditions. -/
theorem Query.args_select {q : Query} {columns : List String} (h : q.select s columns = .ok f) :
    ∃ taken args, q.conditionArgs s = .ok args ∧ taken.length = q.type.joinFields.length ∧
      f.args = taken ++ args := by
  obtain ⟨schema, record, joins, cs, hschema, hrecord, hjoins, hcs, hargs⟩ := args_selectOver h
  obtain ⟨names, hb⟩ := RecordType.criteriaSchema_built hschema
  rw [Option.toList_none, List.append_nil] at hjoins
  exact ⟨joins.flatMap Fragment.args, cs.flatMap Fragment.args,
    conditionArgs_of hschema hrecord hcs, hb.length_args_join hjoins, hargs⟩

/-- Where a SELECT of a query is built, a DELETE of it is. -/
theorem Query.exists_delete {q : Query} {columns : List String}
    (h : q.select s columns = .ok f) : ∃ deleted, q.delete s = .ok deleted := by
  obtain ⟨schema, hschema, rows, hrows, -⟩ := selectOver_eq_ok.1 h
  obtain ⟨record, hrecord, table, htable, -, -, cs, hcs, -⟩ := rows_eq_ok.1 hrows
  have hjoins : ([] : List Template).mapM (·.bind record) = .ok [] := rfl
  have hdelete : q.rows s schema [] none = .ok ⟨table, [], cs⟩ :=
    rows_eq_ok.2 ⟨record, hrecord, table, htable, [], hjoins, cs, hcs, rfl⟩
  exact ⟨_, delete_eq_ok.2 ⟨schema, hschema, _, hdelete, rfl⟩⟩

theorem Query.args_delete {q : Query} {args : List Scalar} (hargs : q.conditionArgs s = .ok args)
    (h : q.delete s = .ok f) : f.args = args := by
  obtain ⟨schema, hschema, rows, hrows, rfl⟩ := delete_eq_ok.1 h
  obtain ⟨record, hrecord, table, -, bound, hbound, cs, hcs, rfl⟩ := rows_eq_ok.1 hrows
  rw [List.mapM_nil, pure_eq_ok] at hbound
  subst hbound
  rw [ok_unique hargs (conditionArgs_of hschema hrecord hcs), Page.args_cut]
  simp

theorem Entity.args_patchByQuery {e : Entity} {q : Query} {sets args : List Scalar}
    (hsets : e.setArgs s = .ok sets) (hargs : q.conditionArgs s = .ok args)
    (h : e.patchByQuery s q = .ok f) : f.args = sets ++ args := by
  obtain ⟨schema, hschema, record, hrecord, assignments, hassign, table, -, criteria, hcriteria,
    values, hvalues, cs, hcs, rfl⟩ := patchByQuery_eq_ok.1 h
  rw [ok_unique hsets (setArgs_of hschema hrecord hassign),
    ok_unique hargs (Query.conditionArgs_of hcriteria hvalues hcs), args_updateOf]

namespace Related

variable {owner joined : RecordType} {field : String}

/-- The clause of an owner has the owner's id twice: as the key and as the start of the path. -/
theorem args_relationClause {columns ownerTable : String} {relation : Relation} {clause : ByOwner}
    (h : relationClause s field columns ownerTable relation = .ok clause) (id : Scalar) :
    (clause id).args = [id, id] := by
  unfold relationClause at h
  split at h
  · cases h
  · split at h
    · cases h
      cases relation.cardinality <;> simp [directClause, head, columnEquals]
    · cases h
  · simp only [bind_eq_ok, pure_eq_ok] at h
    obtain ⟨⟨hop, hops⟩, -, rfl⟩ := h
    simp [joinedClause, head, columnEquals]

theorem args_restrict (page : Page) (order : Option String) (conditions : List Fragment)
    (clause : Fragment) :
    (restrict s page order conditions clause).args =
      clause.args ++ conditions.flatMap Fragment.args := by
  unfold restrict
  dsimp only
  split
  · simp [Fragment.parenthesized]
  · simp

theorem args_relatedWhere {q : Query} {ids args : List Scalar}
    (hargs : q.conditionArgs s = .ok args)
    (h : owner.relatedWhere joined s q field ids = .ok (some f)) :
    ids ≠ [] ∧ f.args = ids.flatMap fun id => id :: id :: args := by
  obtain ⟨schema, hschema, record, hrecord, hstatement⟩ := RecordType.relatedWhere_eq_ok.1 h
  obtain ⟨-, hnone⟩ | ⟨hids, clause, hclause, hsome⟩ := statement_eq_ok.1 hstatement
  · cases hnone
  cases hsome
  obtain ⟨ownerSchema, -, relation, -, joinedSchema, -, ownerTable, -, base, hbase, within,
    hwithin, rfl⟩ := ownerClause_eq_ok.1 hclause
  obtain ⟨cs, hcs, order, -, rfl⟩ := filter_apply_eq_ok.1 hwithin
  refine ⟨hids, ?_⟩
  unfold union
  rw [Fragment.args_joinWith, List.flatMap_map]
  refine List.flatMap_congr fun id _ => ?_
  rw [args_restrict, args_relationClause hbase,
    ok_unique hargs (Query.conditionArgs_of hschema hrecord hcs)]
  rfl

end Related

/-! ## The same restriction -/

theorem append_eq_iff {α : Type} (xs taken ys : List α) :
    xs ++ ys = xs ++ (taken ++ ys) ↔ taken = [] := by
  rw [List.append_cancel_left_eq, List.self_eq_append_left]

theorem flatMap_eq_iff {ids taken args : List Scalar} (h : ids ≠ []) :
    (ids.flatMap fun id => id :: id :: args) = (ids.flatMap fun id => id :: id :: (taken ++ args)) ↔
      taken = [] := by
  constructor
  · intro heq
    have hlength := congrArg List.length heq
    simp only [List.length_flatMap, List.length_cons, List.length_append, List.map_const',
      List.sum_replicate_nat] at hlength
    have hids : 0 < ids.length := List.length_pos_iff.2 h
    have := Nat.eq_of_mul_eq_mul_left hids hlength
    exact List.length_eq_zero_iff.1 (by omega)
  · intro htaken
    rw [htaken]
    rfl

/-- Where a SELECT is built, so is a DELETE of the same query; and it, an UPDATE of the query's rows
    and each clause of related entities that the query filters restrict rows by the same arguments
    if and only if the join clause of the query's type takes no field. -/
theorem restricts_alike_iff {q : Query} {selected : Statement}
    (h : q.select s [] = .ok selected) :
    (∃ deleted, q.delete s = .ok deleted ∧
      (deleted.args = selected.args ↔ q.type.joinFields = [])) ∧
    (∀ (e : Entity) patched sets, e.patchByQuery s q = .ok patched → e.setArgs s = .ok sets →
      (patched.args = sets ++ selected.args ↔ q.type.joinFields = [])) ∧
    ∀ (owner joined : RecordType) field ids found,
      owner.relatedWhere joined s q field ids = .ok (some found) →
      (found.args = (ids.flatMap fun id => id :: id :: selected.args) ↔
        q.type.joinFields = []) := by
  obtain ⟨taken, args, hargs, hlength, hselected⟩ := Query.args_select h
  have htaken : taken = [] ↔ q.type.joinFields = [] := by
    rw [← List.length_eq_zero_iff, hlength, List.length_eq_zero_iff]
  refine ⟨?_, ?_, ?_⟩
  · obtain ⟨deleted, hdeleted⟩ := Query.exists_delete h
    refine ⟨deleted, hdeleted, ?_⟩
    rw [Query.args_delete hargs hdeleted, hselected, ← htaken]
    exact append_eq_iff [] taken args
  · intro e patched sets hpatched hsets
    rw [Entity.args_patchByQuery hsets hargs hpatched, hselected, ← htaken]
    exact append_eq_iff sets taken args
  · intro owner joined field ids found hfound
    obtain ⟨hids, hrelated⟩ := Related.args_relatedWhere hargs hfound
    rw [hrelated, hselected, ← htaken]
    exact flatMap_eq_iff hids

set_option maxRecDepth 20000 in
theorem restricts_alike_ofAge :
    ∃ deleted, (Query.ofAge "3").delete .default = .ok deleted ∧
      (deleted.args = [.text "3"] ↔ (Query.ofAge "3").type.joinFields = []) := by
  have hselect : (Query.ofAge "3").select .default [] =
      .ok ⟨"SELECT * FROM user WHERE age = ?", [.text "3"]⟩ := by cbv
  exact (restricts_alike_iff hselect).1

/-- A query for the users of a role, which the join clause takes. -/
def Query.ofRole : Query :=
  ⟨⟨"UserQuery", some ["roleId"], "user", some "JOIN r ON r.id = #\x7broleId\x7d", none, []⟩,
    .record [("roleId", .int ⟨true, .w64⟩ 1)], .all⟩

set_option maxRecDepth 20000 in
/-- The SELECT finds the users of the role, the DELETE removes all users. -/
theorem delete_ofRole_unrestricted :
    Query.ofRole.select .default [] =
        .ok ⟨"SELECT * FROM user JOIN r ON r.id = ?", [.int 1]⟩ ∧
      Query.ofRole.delete .default = .ok ⟨"DELETE FROM user", []⟩ := by
  constructor <;> cbv

end CriteriaSql
