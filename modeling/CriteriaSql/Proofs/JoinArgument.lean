/-
  Fields in a join clause and in the WHERE clause. A condition binds the value of its field in the
  encoding declared for the field; a join clause binds the values of the fields that it refers to by
  number. The two arguments of a field are the same unless its variants go by their names and its
  value is one (`joined_argument_iff`).
-/
import CriteriaSql.Proofs.Alternatives
import CriteriaSql.Proofs.JoinClause
import CriteriaSql.Proofs.Restriction
import CriteriaSql.Proofs.Variants
import Mathlib

namespace CriteriaSql

variable {s : Settings} {schema : CriteriaSchema} {record : Record} {plan : FieldPlan FilterForm}

/-! ## Conditions -/

/-- What is collected from one input stands between what is collected from those ahead of it and
    those behind it. -/
theorem collect_of_mem {ε α β : Type} {f : α → Except ε (Option β)} {xs : List α} {ys : List β}
    (h : collect f xs = .ok ys) {x : α} {y : β} (hx : x ∈ xs) (hy : f x = .ok (some y)) :
    ∃ ahead behind before after, xs = ahead ++ x :: behind ∧ collect f ahead = .ok before ∧
      collect f behind = .ok after ∧ ys = before ++ y :: after := by
  induction xs generalizing ys with
  | nil => cases hx
  | cons z xs ih =>
    rw [collect_cons] at h
    obtain ⟨found, hfound, h⟩ := bind_eq_ok.1 h
    obtain ⟨rest, hrest, rfl⟩ := map_eq_ok.1 h
    rcases List.mem_cons.1 hx with rfl | hx
    · obtain rfl := ok_unique hy hfound
      exact ⟨[], xs, [], rest, rfl, rfl, hrest, rfl⟩
    · obtain ⟨ahead, behind, before, after, rfl, hbefore, hafter, rfl⟩ := ih hrest hx
      refine ⟨z :: ahead, behind, found.toList ++ before, after, rfl, ?_, hafter, ?_⟩
      · rw [collect_cons, hfound, hbefore]
        rfl
      · rw [List.append_assoc]

/-- The condition of a field that is to equal its value binds the value, which is a single one. -/
theorem FieldPlan.condition_of_eq {value : FieldValue} {condition : Fragment}
    (hkind : plan.kind = .simple .eq) (h : plan.condition s value = .ok (some condition)) :
    value.isCompound = false ∧ ∃ own, value.bind plan.name plan.encoding = .ok own ∧
      condition = columnEquals plan.column own := by
  simp only [FieldPlan.condition, hkind] at h
  split at h
  · cases h
  · simp only [Operand.compare] at h
    split at h
    · cases h
    next hsingle =>
      simp only [Operand.bind, bind_eq_ok, pure_eq_ok, Option.some.injEq] at h
      obtain ⟨own, hown, rfl⟩ := h
      exact ⟨eq_false_of_ne_true hsingle, own, hown, rfl⟩

namespace Query

/-- The query asks that the column of a field equals its value, and its type has no join clause. -/
structure AsksEqual (q : Query) (s : Settings) (schema : CriteriaSchema) (record : Record)
    (plan : FieldPlan FilterForm) (condition : Fragment) : Prop where
  join_eq : q.type.join = none
  schema_eq : q.schema s = .ok schema
  record_eq : q.record = .ok record
  isField : plan ∈ schema.fields
  kind_eq : plan.kind = .simple .eq
  condition_eq : plan.condition s (record.get plan.name) = .ok (some condition)

namespace AsksEqual

variable {q : Query} {condition : Fragment} {f : Statement} {columns : List String}

/-- The condition binds the value in the encoding declared for the field. -/
theorem exists_own (h : q.AsksEqual s schema record plan condition) :
    (record.get plan.name).isCompound = false ∧ ∃ own,
      (record.get plan.name).bind plan.name (q.type.marks.encoding plan.name) = .ok own ∧
        condition = columnEquals plan.column own := by
  obtain ⟨names, hb⟩ := RecordType.criteriaSchema_built h.schema_eq
  obtain ⟨-, hplan, -⟩ := hb.plan_of_mem h.isField
  obtain ⟨-, -, hencoding, -⟩ := CriteriaSchema.plan_spec hplan
  rw [← hencoding]
  exact FieldPlan.condition_of_eq h.kind_eq h.condition_eq

/-- The arguments of a SELECT are those of the conditions of the fields ahead of the field, its own
    ones, and those of the fields behind it. -/
theorem args_select (h : q.AsksEqual s schema record plan condition)
    (hf : q.select s columns = .ok f) :
    ∃ ahead behind before after, schema.fields = ahead ++ plan :: behind ∧
      ({ schema with fields := ahead } : CriteriaSchema).conditions s record none = .ok before ∧
      ({ schema with fields := behind } : CriteriaSchema).conditions s record none = .ok after ∧
      f.args = before.flatMap Fragment.args ++ condition.args ++ after.flatMap Fragment.args := by
  obtain ⟨schema', record', joins, cs, hschema, hrecord, hjoins, hcs, hargs⟩ := args_selectOver hf
  obtain rfl := ok_unique h.schema_eq hschema
  obtain rfl := ok_unique h.record_eq hrecord
  rw [RecordType.join_of_criteriaSchema h.join_eq hschema, Option.toList_none, List.append_nil,
    List.mapM_nil, pure_eq_ok] at hjoins
  subst hjoins
  rw [CriteriaSchema.conditions_eq_collect] at hcs
  obtain ⟨ahead, behind, before, after, hfields, hbefore, hafter, rfl⟩ :=
    collect_of_mem hcs h.isField h.condition_eq
  refine ⟨ahead, behind, before, after, hfields, ?_, ?_, ?_⟩
  · rwa [CriteriaSchema.conditions_eq_collect]
  · rwa [CriteriaSchema.conditions_eq_collect]
  · rw [hargs]
    simp

/-- A SELECT over a join clause begins with the arguments of the clause: the values of the fields
    that it refers to, bound by number. -/
theorem bound_of_selectJoined (h : q.AsksEqual s schema record plan condition) {join : String}
    {t : Template} (ht : Template.parse .join join = .ok t)
    (hf : q.selectJoined s join columns = .ok f) {place : Nat}
    (hplace : t.fieldNames[place]? = some plan.name) :
    ∃ bound, f.args[place]? = some bound ∧
      (record.get plan.name).bind plan.name .ordinal = .ok bound := by
  obtain ⟨t', ht', hf⟩ := selectJoined_eq_ok.1 hf
  obtain rfl := ok_unique ht ht'
  obtain ⟨schema', record', joins, cs, hschema, hrecord, hjoins, -, hargs⟩ := args_selectOver hf
  obtain rfl := ok_unique h.record_eq hrecord
  rw [RecordType.join_of_criteriaSchema h.join_eq hschema, Option.toList_none, List.nil_append,
    Option.toList_some, mapM_eq_ok, List.forall₂_cons_left_iff] at hjoins
  obtain ⟨clause, rest, hclause, -, rfl⟩ := hjoins
  obtain ⟨bound, hbound, hnumber⟩ := getElem?_of_forall₂ (Template.args_bind hclause) hplace
  refine ⟨bound, ?_, hnumber⟩
  obtain ⟨hlt, -⟩ := List.getElem?_eq_some_iff.1 hbound
  rw [hargs, List.flatMap_cons, List.append_assoc, List.getElem?_append_left hlt, hbound]

end AsksEqual

/-- Where a query asks that a column equals the value of a field, its SELECT binds one argument for
    the field. A SELECT over a join clause binds the value by number wherever the clause refers to
    the field. The two arguments are the same if and only if the variants of the field do not go by
    their names, or the value is no variant. -/
theorem joined_argument_iff {q : Query} {condition : Fragment}
    (h : q.AsksEqual s schema record plan condition) {join : String} {t : Template}
    (ht : Template.parse .join join = .ok t) {columns columns' : List String}
    {selected joined : Statement} (hselected : q.select s columns = .ok selected)
    (hjoined : q.selectJoined s join columns' = .ok joined) :
    ∃ own, condition = columnEquals plan.column own ∧
      (∃ ahead behind before after, schema.fields = ahead ++ plan :: behind ∧
        ({ schema with fields := ahead } : CriteriaSchema).conditions s record none = .ok before ∧
        ({ schema with fields := behind } : CriteriaSchema).conditions s record none = .ok after ∧
        selected.args = before.flatMap Fragment.args ++ [own] ++ after.flatMap Fragment.args) ∧
      ∀ place : Nat, t.fieldNames[place]? = some plan.name →
        ∃ bound, joined.args[place]? = some bound ∧
          (record.get plan.name).bind plan.name .ordinal = .ok bound ∧
          (bound = own ↔ ¬(q.type.marks.has plan.name .enumAsString = true ∧
            ∃ index name, record.get plan.name = .variant index name)) := by
  obtain ⟨hsingle, own, hown, rfl⟩ := h.exists_own
  refine ⟨own, rfl, h.args_select hselected, ?_⟩
  intro place hplace
  obtain ⟨bound, hbound, hnumber⟩ := h.bound_of_selectJoined ht hjoined hplace
  refine ⟨bound, hbound, hnumber, ?_⟩
  rw [FieldValue.bind_eq_iff hown hnumber, FieldValue.holdsVariant_of_single hsingle,
    Marks.encoding_eq_name_iff]

/-- A query for users by a part of their name and by their level. -/
def ofLevel (marks : Marks) : Query :=
  ⟨⟨"UserQuery", some ["nameLike", "userLevel"], "user", none, none, marks⟩,
    .record [("nameLike", .text "x"), ("userLevel", .variant 1 "Vip")], .all⟩

/-- A join clause that refers to the level. -/
def levelClause : String := "JOIN l ON l.level = #\x7buserLevel\x7d"

set_option maxRecDepth 20000 in
theorem asksEqual_ofLevel :
    (ofLevel []).AsksEqual .default
      ⟨"UserQuery", ⟨"user", [.literal "user".toList]⟩, none, none,
        [⟨"nameLike", "name", .simple .like, .ordinal⟩,
          ⟨"userLevel", "userLevel", .simple .eq, .ordinal⟩]⟩
      ⟨"UserQuery", [("nameLike", .scalar (.text "x")), ("userLevel", .variant 1 "Vip")]⟩
      ⟨"userLevel", "userLevel", .simple .eq, .ordinal⟩ (columnEquals "userLevel" (.int 1)) where
  join_eq := rfl
  schema_eq := by cbv
  record_eq := by cbv
  isField := by decide
  kind_eq := rfl
  condition_eq := by cbv

set_option maxRecDepth 20000 in
theorem joined_argument_ofLevel :
    ∃ selected joined own, (ofLevel []).select .default [] = .ok selected ∧
      (ofLevel []).selectJoined .default levelClause [] = .ok joined ∧
      selected.args = [.text "%x%", own] ∧ joined.args[0]? = some own := by
  have hselected : (ofLevel []).select .default [] =
      .ok ⟨"SELECT * FROM user WHERE name LIKE ? AND userLevel = ?", [.text "%x%", .int 1]⟩ := by
    cbv
  have hjoined : (ofLevel []).selectJoined .default levelClause [] =
      .ok ⟨"SELECT * FROM user JOIN l ON l.level = ? WHERE name LIKE ?",
        [.int 1, .text "%x%"]⟩ := by cbv
  obtain ⟨t, ht, hnames⟩ : ∃ t, Template.parse .join levelClause = .ok t ∧
      t.fieldNames = ["userLevel"] := ⟨_, by cbv, by cbv⟩
  obtain ⟨own, hcondition, -, hplaces⟩ :=
    joined_argument_iff asksEqual_ofLevel ht hselected hjoined
  obtain rfl : Scalar.int 1 = own := List.singleton_inj.1 (congrArg Fragment.args hcondition)
  obtain ⟨bound, hbound, -, hsame⟩ := hplaces 0 (by rw [hnames]; rfl)
  obtain rfl := hsame.2 fun hnamed => absurd hnamed.1 (by decide)
  exact ⟨_, _, _, hselected, hjoined, rfl, hbound⟩

set_option maxRecDepth 20000 in
/-- The level is compared by name and joined by number. -/
theorem joined_by_number :
    (ofLevel [("userLevel", .enumAsString)]).select .default [] =
        .ok ⟨"SELECT * FROM user WHERE name LIKE ? AND userLevel = ?",
          [.text "%x%", .text "Vip"]⟩ ∧
      (ofLevel [("userLevel", .enumAsString)]).selectJoined .default levelClause [] =
        .ok ⟨"SELECT * FROM user JOIN l ON l.level = ? WHERE name LIKE ?",
          [.int 1, .text "%x%"]⟩ := by
  constructor <;> cbv

end Query

end CriteriaSql
