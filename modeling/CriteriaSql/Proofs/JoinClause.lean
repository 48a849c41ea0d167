/-
  The two places of a join clause. A type may have a join clause, and a call may add one. Where the
  type has none, it makes no difference whether a clause is the type's or the call's: the schema of
  the type with the clause leaves out the fields that the clause takes, and a call with the clause
  passes over them (`selectJoined_eq_select`).
-/
import CriteriaSql.Proofs.Assembly
import CriteriaSql.Proofs.Schemas
import Mathlib

namespace CriteriaSql

/-! ## Types with a join clause -/

/-- The type with a join clause. -/
def RecordType.withJoin (type : RecordType) (join : String) : RecordType :=
  { type with join := some join }

/-- A query of the same values for the type with a join clause. -/
def Query.withJoin (q : Query) (join : String) : Query := { q with type := q.type.withJoin join }

/-- The schema with a join clause, less the fields that the clause takes. -/
def CriteriaSchema.withJoin (schema : CriteriaSchema) (t : Template) : CriteriaSchema :=
  { schema with
    join := some t
    fields := schema.fields.filter fun plan => !t.references plan.name }

section

variable {type : RecordType} {names : List String} {join : String} {t : Template}
  {schema : CriteriaSchema} {mapCamelCase : Bool}

theorem CriteriaSchema.restricts_some (marks : Marks) (table t : Template) (field : String) :
    restricts marks table (some t) field =
      (restricts marks table none field && !t.references field) := by
  simp [restricts]

theorem RecordType.join_of_criteriaSchema (hnone : type.join = none)
    (h : type.criteriaSchema mapCamelCase = .ok schema) : schema.join = none := by
  obtain ⟨names, hb⟩ := criteriaSchema_built h
  have hjoin := hb.join
  rw [hnone, Option.mapM_none, pure_eq_ok] at hjoin
  exact hjoin.symm

/-- A join clause over fields of a type takes them out of the type's schema, and the schema is
    built as before: each of its other plans comes from its field and the marks on it alone. -/
theorem RecordType.criteriaSchema_withJoin (hnone : type.join = none)
    (h : type.criteriaSchema mapCamelCase = .ok schema)
    (ht : Template.parse .join join = .ok t) (hnames : type.fields = some names)
    (hfields : ∀ field ∈ t.fieldNames, field ∈ names) :
    (type.withJoin join).criteriaSchema mapCamelCase = .ok (schema.withJoin t) := by
  simp only [criteriaSchema, bind_eq_ok, pure_eq_ok] at h ⊢
  obtain ⟨names', hnames', checked, hmarks, table, htable, none', hnone', plans, hplans, rfl⟩ := h
  obtain rfl : names = names' :=
    Option.some.inj (hnames.symm.trans (fieldNames_eq_ok.1 hnames'))
  rw [hnone, Option.mapM_none, pure_eq_ok] at hnone'
  subst hnone'
  have hjoin : (type.withJoin join).join.mapM (Template.parseOver .join names) =
      .ok (some t) :=
    option_mapM_eq_ok.2 (Or.inr ⟨join, t, rfl, rfl, Template.parseOver_eq_ok.2 ⟨ht, hfields⟩⟩)
  have hothers : (names.filter (CriteriaSchema.restricts type.marks table (some t))).mapM
      (CriteriaSchema.plan type.marks mapCamelCase) =
      .ok (plans.filter fun plan => !t.references plan.name) := by
    have hfilter : names.filter (CriteriaSchema.restricts type.marks table (some t)) =
        (names.filter (CriteriaSchema.restricts type.marks table none)).filter
          fun field => !t.references field := by
      rw [List.filter_filter]
      refine List.filter_congr fun field _ => ?_
      rw [CriteriaSchema.restricts_some, Bool.and_comm]
    rw [hfilter]
    refine mapM_filter hplans fun field plan hplan => ?_
    rw [(CriteriaSchema.plan_spec hplan).1]
  exact ⟨names, hnames', checked, hmarks, table, htable, some t, hjoin, _, hothers, rfl⟩

end

/-! ## Queries -/

namespace CriteriaSchema

/-- Without the fields that a clause takes, there is no condition for the call to pass over. -/
theorem conditions_withJoin (schema : CriteriaSchema) (s : Settings) (record : Record)
    (t : Template) :
    (schema.withJoin t).conditions s record none = schema.conditions s record (some t) := by
  unfold conditions withJoin
  simp only [Option.any_none, Option.any_some, Bool.not_false, List.filter_true]

end CriteriaSchema

namespace Query

variable {q : Query} {s : Settings} {schema : CriteriaSchema} {join : String} {t : Template}
  {names : List String}

theorem rows_withJoin (hnone : schema.join = none) :
    (q.withJoin join).rows s (schema.withJoin t) (schema.withJoin t).join.toList none =
      q.rows s schema (schema.join.toList ++ [t]) (some t) := by
  unfold rows
  rw [hnone]
  simp only [CriteriaSchema.conditions_withJoin]
  rfl

/-- A join clause over fields of a type that has none gives the same SELECT, or the same error, as
    a clause of the type and as a clause of the call. -/
theorem selectJoined_eq_select (hnone : q.type.join = none) (hschema : q.schema s = .ok schema)
    (ht : Template.parse .join join = .ok t) (hnames : q.type.fields = some names)
    (hfields : ∀ field ∈ t.fieldNames, field ∈ names) (columns : List String) :
    q.selectJoined s join columns = (q.withJoin join).select s columns := by
  have hwith : (q.withJoin join).schema s = .ok (schema.withJoin t) :=
    RecordType.criteriaSchema_withJoin hnone hschema ht hnames hfields
  have hown : schema.join = none := RecordType.join_of_criteriaSchema hnone hschema
  unfold selectJoined select selectOver
  rw [ht, hschema, hwith]
  simp only [bind, Except.bind, Option.toList_none, List.append_nil, Option.toList_some]
  rw [rows_withJoin hown]
  rfl

/-- A query for users by the role they have and by a part of their name. -/
def ofRoleNamed : Query :=
  ⟨⟨"UserQuery", some ["roleId", "nameLike"], "user", none, none, []⟩,
    .record [("roleId", .int ⟨true, .w64⟩ 1), ("nameLike", .text "x")], .all⟩

set_option maxRecDepth 20000 in
theorem selectJoined_ofRoleNamed :
    let clause := "JOIN r ON r.id = #\x7broleId\x7d"
    ofRoleNamed.selectJoined .default clause [] =
        .ok ⟨"SELECT * FROM user JOIN r ON r.id = ? WHERE name LIKE ?", [.int 1, .text "%x%"]⟩ ∧
      ofRoleNamed.selectJoined .default clause [] =
        (ofRoleNamed.withJoin clause).select .default [] := by
  intro clause
  obtain ⟨schema, hschema⟩ : ∃ schema, ofRoleNamed.schema .default = .ok schema := ⟨_, by cbv⟩
  obtain ⟨t, ht, hnames⟩ : ∃ t, Template.parse .join clause = .ok t ∧ t.fieldNames = ["roleId"] :=
    ⟨_, by cbv, by cbv⟩
  have hfields : ∀ field ∈ t.fieldNames, field ∈ ["roleId", "nameLike"] := by
    rw [hnames]
    decide
  refine ⟨by cbv, ?_⟩
  exact selectJoined_eq_select rfl hschema ht rfl hfields []

end Query

end CriteriaSql
