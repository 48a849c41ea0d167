/-
  Groups of alternatives. Each member of a group is a comparison that could stand by itself; the
  group is what its members give, in order, less those that are left out, in SQL and in documents
  alike. A comparison that is left out constrains nothing, so a disjunction with it would constrain
  nothing either; but a group is left out only where all of its members are. The two differ for the
  empty collection alone, where some members ask to be outside it and others do not
  (`group_leftOut_iff`).
-/
import CriteriaSql.Proofs.Comparison
import Mathlib

namespace CriteriaSql

/-! ## Collecting -/

section Collect

variable {ε α β : Type} {f : α → Except ε (Option β)} {xs : List α}

theorem collect_cons (f : α → Except ε (Option β)) (x : α) (xs : List α) :
    collect f (x :: xs) =
      (f x).bind fun found => (collect f xs).map fun rest => found.toList ++ rest := by
  unfold collect
  rw [List.mapM_cons]
  cases f x with
  | error e => rfl
  | ok found =>
    cases xs.mapM f with
    | error e => rfl
    | ok rest => cases found <;> rfl

/-- Nothing is collected where everything is left out. -/
theorem collect_eq_nil_iff : collect f xs = .ok [] ↔ ∀ x ∈ xs, f x = .ok none := by
  induction xs with
  | nil => exact ⟨fun _ x hx => absurd hx List.not_mem_nil, fun _ => rfl⟩
  | cons x xs ih =>
    rw [collect_cons, List.forall_mem_cons, ← ih]
    constructor
    · intro h
      obtain ⟨found, hfound, h⟩ := bind_eq_ok.1 h
      obtain ⟨rest, hrest, hnil⟩ := map_eq_ok.1 h
      obtain ⟨hnone, rfl⟩ := List.append_eq_nil_iff.1 hnil
      rw [Option.toList_eq_nil_iff] at hnone
      exact ⟨hnone ▸ hfound, hrest⟩
    · rintro ⟨hnone, hrest⟩
      rw [hnone, hrest]
      rfl

/-- Where nothing is left out, everything is collected, unless something is refused. -/
theorem collect_of_kept (h : ∀ x ∈ xs, f x ≠ .ok none) :
    (∃ e, collect f xs = .error e ∧ ∃ x ∈ xs, f x = .error e) ∨
      ∃ ys, collect f xs = .ok ys ∧ List.Forall₂ (fun x y => f x = .ok (some y)) xs ys := by
  induction xs with
  | nil => exact Or.inr ⟨[], rfl, .nil⟩
  | cons x xs ih =>
    obtain ⟨hx, hxs⟩ := List.forall_mem_cons.1 h
    rw [collect_cons]
    cases hfound : f x with
    | error e => exact Or.inl ⟨e, rfl, x, List.mem_cons_self, hfound⟩
    | ok found =>
      cases found with
      | none => exact absurd hfound hx
      | some y =>
        obtain ⟨e, he, z, hz, hze⟩ | ⟨ys, hys, hall⟩ := ih hxs
        · rw [he]
          exact Or.inl ⟨e, rfl, z, List.mem_cons_of_mem _ hz, hze⟩
        · rw [hys]
          exact Or.inr ⟨y :: ys, rfl, .cons hfound hall⟩

end Collect

/-! ## Members -/

namespace Operand

variable {x : Operand} {op : Operator}

theorem itemsComparand_eq_none_iff :
    x.itemsComparand op = .ok none ↔ x.value = .list [] ∧ op = .noneOf := by
  unfold itemsComparand
  cases x.value with
  | list items =>
    by_cases hnone : op = .noneOf ∧ items = []
    · simp [hnone]
    · simp [hnone, and_comm]
  | _ => simp [refuse]

theorem partComparand_ne_none : x.partComparand ≠ .ok none := by
  unfold partComparand
  split <;> simp [refuse]

theorem valueComparand_ne_none : x.valueComparand op ≠ .ok none := by
  unfold valueComparand
  split <;> simp [refuse]

/-- A comparison is left out where the column has to be outside of an empty collection. -/
theorem comparison_eq_none_iff {t : ColumnTest} :
    x.comparison t = .ok none ↔ x.value = .list [] ∧ t.operator = .noneOf := by
  have hcomparand : x.comparison t = .ok none ↔ x.comparand t.operator = .ok none := by
    unfold comparison
    rw [map_eq_ok]
    simp only [Option.map_eq_none_iff, exists_eq_right]
  rw [hcomparand]
  unfold comparand
  cases hop : t.operator with
  | isNull | notNull => simp
  | oneOf | noneOf => exact itemsComparand_eq_none_iff
  | like => simp [partComparand_ne_none]
  | eq | ne | gt | ge | lt | le => simp [valueComparand_ne_none]

end Operand

namespace FieldPlan

variable {plan : FieldPlan FilterForm} {tests : List ColumnTest} {value : FieldValue}

/-- A member of a group as a field of its own. -/
def member (plan : FieldPlan FilterForm) (t : ColumnTest) : FieldPlan FilterForm :=
  { plan with column := t.column, kind := .simple t.operator }

/-- The comparison that a member of a group makes, if it is not left out. -/
def comparison (plan : FieldPlan FilterForm) (value : FieldValue) (t : ColumnTest) :
    Except Error (Option Comparison) :=
  if value.isIdle then .ok none else Operand.comparison ⟨plan.name, plan.encoding, value⟩ t

theorem comparison_eq_none_iff {t : ColumnTest} :
    plan.comparison value t = .ok none ↔
      value.isIdle = true ∨ value = .list [] ∧ t.operator = .noneOf := by
  unfold comparison
  split
  next hidle => simp [hidle]
  next hidle => simp [hidle, Operand.comparison_eq_none_iff]

theorem clause_member (t : ColumnTest) :
    (plan.member t).clause value = (plan.comparison value t).map (Option.map .one) := by
  unfold clause comparison
  split <;> rfl

/-- The condition of a member by itself is its comparison in SQL. -/
theorem condition_member (s : Settings) (t : ColumnTest) :
    (plan.member t).condition s value =
      (plan.comparison value t).map (Option.map Comparison.sql) := by
  rw [condition_eq_clause (by exact trivial), clause_member]
  cases plan.comparison value t with
  | error e => rfl
  | ok found => cases found <;> rfl

/-- The clause of a member by itself is the test of its comparison. -/
theorem filterClause_member (t : ColumnTest) :
    (plan.member t).filterClause value =
      (plan.comparison value t).map (Option.map fun c => .one c.test) := by
  rw [filterClause_eq_clause (by exact trivial), clause_member]
  cases plan.comparison value t with
  | error e => rfl
  | ok found => cases found <;> rfl

theorem document_member (t : ColumnTest) :
    (plan.member t).document value =
      (plan.comparison value t).map (Option.map Comparison.document) := by
  rw [document, filterClause_member]
  cases plan.comparison value t with
  | error e => rfl
  | ok found =>
    cases found with
    | none => rfl
    | some c => exact congrArg (fun j => Except.ok (some j)) c.toJson_test

end FieldPlan

/-! ## Groups -/

/-- Tests of documents as alternatives, if there are any. -/
def FilterClause.alternatives : List DocumentTest → Option FilterClause
  | [] => none
  | tests => some (.anyOf tests)

theorem Fragment.alternatives_eq_none_iff {fs : List Fragment} :
    alternatives fs = none ↔ fs = [] := by
  match fs with
  | [] => exact ⟨fun _ => rfl, fun _ => rfl⟩
  | [f] => simp [alternatives]
  | f :: g :: fs => simp [alternatives]

theorem FilterClause.alternatives_eq_none_iff {tests : List DocumentTest} :
    alternatives tests = none ↔ tests = [] := by
  cases tests <;> simp [alternatives]

/-- Documents as alternatives behind their keyword, if there are any. -/
def Json.alternatives : List Json → Option Json
  | [] => none
  | ds => some (.field "$or" (.array ds))

theorem FilterClause.map_toJson_alternatives (tests : List DocumentTest) :
    (alternatives tests).map toJson = Json.alternatives (tests.map DocumentTest.toJson) := by
  cases tests <;> rfl

namespace FieldPlan

variable {plan : FieldPlan FilterForm} {tests : List ColumnTest} {value : FieldValue}

theorem clause_group (hkind : plan.kind = .anyOf tests) :
    plan.clause value = (collect (plan.comparison value) tests).map Clause.ofAlternatives := by
  by_cases hidle : value.isIdle = true
  · have hnone : collect (plan.comparison value) tests = .ok [] :=
      collect_eq_nil_iff.2 fun t _ => comparison_eq_none_iff.2 (Or.inl hidle)
    rw [hnone, clause, if_pos hidle]
    rfl
  · have hsame : plan.comparison value = Operand.comparison ⟨plan.name, plan.encoding, value⟩ := by
      funext t
      rw [comparison, if_neg hidle]
    rw [hsame, clause, if_neg hidle, hkind]

/-- The condition of a group is the alternatives of its members, less those that are left out. -/
theorem condition_group (hkind : plan.kind = .anyOf tests) (s : Settings) :
    plan.condition s value =
      (collect (plan.comparison value) tests).map fun cs =>
        Fragment.alternatives (cs.map Comparison.sql) := by
  rw [condition_eq_clause (hkind ▸ trivial), clause_group hkind]
  cases collect (plan.comparison value) tests with
  | error e => rfl
  | ok cs => exact congrArg Except.ok (Clause.map_sql_ofAlternatives cs)

/-- The clause of a group is the alternatives of its members, less those that are left out. -/
theorem filterClause_group (hkind : plan.kind = .anyOf tests) :
    plan.filterClause value =
      (collect (plan.comparison value) tests).map fun cs =>
        FilterClause.alternatives (cs.map Comparison.test) := by
  rw [filterClause_eq_clause (hkind ▸ trivial), clause_group hkind]
  cases collect (plan.comparison value) tests with
  | error e => rfl
  | ok cs => cases cs <;> rfl

/-- A group is left out where all of its members are. -/
theorem condition_group_eq_none_iff (hkind : plan.kind = .anyOf tests) (s : Settings) :
    plan.condition s value = .ok none ↔ ∀ t ∈ tests, plan.comparison value t = .ok none := by
  rw [condition_group hkind, ← collect_eq_nil_iff, map_eq_ok]
  simp only [Fragment.alternatives_eq_none_iff, List.map_eq_nil_iff, exists_eq_right]

theorem filterClause_group_eq_none_iff (hkind : plan.kind = .anyOf tests) :
    plan.filterClause value = .ok none ↔ ∀ t ∈ tests, plan.comparison value t = .ok none := by
  rw [filterClause_group hkind, ← collect_eq_nil_iff, map_eq_ok]
  simp only [FilterClause.alternatives_eq_none_iff, List.map_eq_nil_iff, exists_eq_right]

/-- The document of a group has those of its members behind one keyword, less those that are left
    out. -/
theorem document_group (hkind : plan.kind = .anyOf tests) :
    plan.document value =
      (collect (plan.comparison value) tests).map fun cs =>
        Json.alternatives (cs.map Comparison.document) := by
  rw [document, filterClause_group hkind]
  cases collect (plan.comparison value) tests with
  | error e => rfl
  | ok cs =>
    refine congrArg Except.ok ?_
    rw [FilterClause.map_toJson_alternatives, Comparison.map_toJson_test]

theorem document_eq_none_iff :
    plan.document value = .ok none ↔ plan.filterClause value = .ok none := by
  rw [document, map_eq_ok]
  simp only [Option.map_eq_none_iff, exists_eq_right]

theorem condition_member_eq_none_iff {s : Settings} {t : ColumnTest} :
    (plan.member t).condition s value = .ok none ↔ plan.comparison value t = .ok none := by
  rw [condition_member, map_eq_ok]
  simp only [Option.map_eq_none_iff, exists_eq_right]

theorem all_leftOut_iff :
    ((∃ t ∈ tests, plan.comparison value t = .ok none) →
        ∀ t ∈ tests, plan.comparison value t = .ok none) ↔
      (value = .list [] →
        (∀ t ∈ tests, t.operator = .noneOf) ∨ ∀ t ∈ tests, t.operator ≠ .noneOf) := by
  simp only [comparison_eq_none_iff]
  constructor
  · rintro h rfl
    by_cases hany : ∃ t ∈ tests, t.operator = .noneOf
    · obtain ⟨t, ht, hop⟩ := hany
      refine Or.inl fun u hu => ?_
      obtain hidle | ⟨-, hop⟩ := h ⟨t, ht, Or.inr ⟨rfl, hop⟩⟩ u hu
      · cases hidle
      · exact hop
    · exact Or.inr fun t ht hop => hany ⟨t, ht, hop⟩
  · rintro h ⟨t, ht, hidle | ⟨hempty, hop⟩⟩ u hu
    · exact Or.inl hidle
    · obtain hall | hnone := h hempty
      · exact Or.inr ⟨hempty, hall u hu⟩
      · exact absurd hop (hnone t ht)

/-- A group is left out with any of its members, in SQL and in documents, if and only if the value
    is not the empty collection or the members ask to be outside of it either all or none. A group
    of which no member is left out is the disjunction of all its members in order, in both
    notations, or one of its members refuses the value and so does the group. -/
theorem group_leftOut_iff (hkind : plan.kind = .anyOf tests) (s : Settings) (value : FieldValue) :
    (((∃ t ∈ tests, (plan.member t).condition s value = .ok none) →
        plan.condition s value = .ok none ∧ plan.document value = .ok none) ↔
      (value = .list [] →
        (∀ t ∈ tests, t.operator = .noneOf) ∨ ∀ t ∈ tests, t.operator ≠ .noneOf)) ∧
    ((∀ t ∈ tests, (plan.member t).condition s value ≠ .ok none) →
      (∃ e, plan.condition s value = .error e ∧ plan.document value = .error e ∧
        ∃ t ∈ tests, (plan.member t).condition s value = .error e) ∨
      ∃ fs ds,
        List.Forall₂ (fun t f => (plan.member t).condition s value = .ok (some f)) tests fs ∧
        List.Forall₂ (fun t d => (plan.member t).document value = .ok (some d)) tests ds ∧
        plan.condition s value = .ok (Fragment.alternatives fs) ∧
        plan.document value = .ok (Json.alternatives ds)) := by
  simp only [ne_eq, condition_member_eq_none_iff]
  constructor
  · rw [document_eq_none_iff, condition_group_eq_none_iff hkind,
      filterClause_group_eq_none_iff hkind, and_self]
    exact all_leftOut_iff
  · intro hkept
    rw [condition_group hkind, document_group hkind]
    -- every member is collected, up to the first one that refuses the value
    obtain ⟨e, he, t, ht, hte⟩ | ⟨cs, hcs, hall⟩ := collect_of_kept hkept
    · refine Or.inl ⟨e, ?_, ?_, t, ht, ?_⟩
      · rw [he]
        rfl
      · rw [he]
        rfl
      · rw [condition_member, hte]
        rfl
    · refine Or.inr ⟨cs.map Comparison.sql, cs.map Comparison.document, ?_, ?_, ?_, ?_⟩
      · rw [List.forall₂_map_right_iff]
        refine hall.imp fun t c hc => ?_
        rw [condition_member, hc]
        rfl
      · rw [List.forall₂_map_right_iff]
        refine hall.imp fun t c hc => ?_
        rw [document_member, hc]
        rfl
      · rw [hcs]
        rfl
      · rw [hcs]
        rfl

/-- Users outside some ids, or without a memo. -/
def outsideOrBare : FieldPlan FilterForm :=
  ⟨"idNotInOrMemoNull", "idNotInOrMemo", .anyOf [⟨"id", .noneOf⟩, ⟨"memo", .isNull⟩], .ordinal⟩

set_option maxRecDepth 20000 in
theorem group_ofOutside :
    outsideOrBare.kind = .anyOf [⟨"id", .noneOf⟩, ⟨"memo", .isNull⟩] ∧
    (∀ t ∈ [ColumnTest.mk "id" .noneOf, ⟨"memo", .isNull⟩],
      (outsideOrBare.member t).condition .default (.list [.scalar (.int 7)]) ≠ .ok none) ∧
    ∃ fs ds,
      List.Forall₂ (fun t f => (outsideOrBare.member t).condition .default
        (.list [.scalar (.int 7)]) = .ok (some f)) [⟨"id", .noneOf⟩, ⟨"memo", .isNull⟩] fs ∧
      Fragment.alternatives fs = some ⟨"(id NOT IN (?) OR memo IS NULL)", [.int 7]⟩ ∧
      List.Forall₂ (fun t d => (outsideOrBare.member t).document
        (.list [.scalar (.int 7)]) = .ok (some d)) [⟨"id", .noneOf⟩, ⟨"memo", .isNull⟩] ds ∧
      Json.alternatives ds = some (.field "$or" (.array
        [.field "id" (.field "$nin" (.array [Json.int 7])), .field "memo" Json.null])) := by
  have hkind : outsideOrBare.kind = .anyOf [⟨"id", .noneOf⟩, ⟨"memo", .isNull⟩] := rfl
  have hkept : ∀ t ∈ [ColumnTest.mk "id" .noneOf, ⟨"memo", .isNull⟩],
      (outsideOrBare.member t).condition .default (.list [.scalar (.int 7)]) ≠ .ok none := by
    simp [condition_member_eq_none_iff, comparison_eq_none_iff, FieldValue.isIdle]
  have hgroup : outsideOrBare.condition .default (.list [.scalar (.int 7)]) =
      .ok (some ⟨"(id NOT IN (?) OR memo IS NULL)", [.int 7]⟩) := by cbv
  have hdocument : outsideOrBare.document (.list [.scalar (.int 7)]) =
      .ok (some (.field "$or" (.array
        [.field "id" (.field "$nin" (.array [Json.int 7])), .field "memo" Json.null]))) := by cbv
  refine ⟨hkind, hkept, ?_⟩
  obtain ⟨e, herror, -⟩ | ⟨fs, ds, hfs, hds, hfragments, hdocuments⟩ :=
    (group_leftOut_iff hkind .default (.list [.scalar (.int 7)])).2 hkept
  · rw [hgroup] at herror
    cases herror
  · exact ⟨fs, ds, hfs, ok_unique hfragments hgroup, hds, ok_unique hdocuments hdocument⟩

set_option maxRecDepth 20000 in
/-- Every user is outside of no ids at all, but the group keeps those without a memo only. -/
theorem group_outside_nothing :
    CriteriaSchema.plan [] false "idNotInOrMemoNull" = .ok outsideOrBare ∧
      (outsideOrBare.member ⟨"id", .noneOf⟩).condition .default (.list []) = .ok none ∧
      outsideOrBare.condition .default (.list []) = .ok (some ⟨"memo IS NULL", []⟩) ∧
      outsideOrBare.document (.list []) =
        .ok (some (.field "$or" (.array [.field "memo" Json.null]))) := by
  refine ⟨?_, ?_, ?_, ?_⟩ <;> cbv

end FieldPlan

end CriteriaSql
