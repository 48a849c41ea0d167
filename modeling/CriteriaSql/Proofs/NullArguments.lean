/-
  Null among the arguments of conditions. A field without a value poses no condition, but only the
  value as a whole is asked whether it is there: the items of a collection are bound whatever they
  are, and a number that has no JSON form reads as null and is bound like any other. So a condition
  binds null if and only if one of the values that it binds by themselves is missing or such a
  number (`null_mem_args_iff`).
-/
import CriteriaSql.Proofs.Forms
import CriteriaSql.Statement.Select
import Mathlib

namespace CriteriaSql

/-! ## Values that are bound as null -/

/-- No value at all, or null. -/
def FieldValue.isNull : FieldValue → Bool
  | .absent => true
  | .scalar .null => true
  | _ => false

/-- A value that is missing or has no content, or a number without a JSON form. -/
def Datum.isNull : Datum → Bool
  | .missing => true
  | .unit => true
  | .present value => value.isNull
  | .wrapped value => value.isNull
  | .single s => !s.widen.isFinite
  | .double d => !d.isFinite
  | _ => false

theorem FieldValue.bind_eq_null_iff {value : FieldValue} {field : String} {encoding : Encoding}
    {arg : Scalar} (h : value.bind field encoding = .ok arg) :
    arg = .null ↔ value.isNull = true := by
  obtain ⟨json, hjson, rfl⟩ := map_eq_ok.1 (mapError_eq_ok.1 h)
  cases value with
  | absent =>
    cases hjson
    decide
  | flag b =>
    cases hjson
    simp [Json.toScalar, isNull]
  | scalar s =>
    cases hjson
    cases s <;> simp [Json.toScalar, isNull]
  | variant index name =>
    cases encoding <;> cases hjson <;> simp [Json.toScalar, Json.int, Json.text, isNull]
  | list items =>
    obtain ⟨js, -, rfl⟩ := map_eq_ok.1 hjson
    simp [Json.toScalar, isNull]
  | record fields =>
    obtain ⟨fs, -, rfl⟩ := map_eq_ok.1 hjson
    simp [Json.toScalar, isNull]
  | unsupported why => cases hjson

theorem Scalar.ofDouble_isNull (d : Double) :
    (FieldValue.scalar (.ofDouble d)).isNull = !d.isFinite := by
  unfold Scalar.ofDouble
  cases d.isFinite <;> rfl

/-- What is read of a value is null if and only if the value is. -/
theorem Datum.isNull_of_read {d : Datum} {optional : Bool} {value : FieldValue}
    (h : d.read optional = .ok value) : value.isNull = d.isNull := by
  match d with
  | .missing | .unit =>
    cases h
    rfl
  | .present inner | .wrapped inner => exact isNull_of_read (d := inner) h
  | .bool b =>
    cases h
    cases optional <;> rfl
  | .int type n =>
    change readInt type n = .ok value at h
    unfold readInt at h
    split at h
    · split at h
      · cases h
        rfl
      · cases h
    · cases h
      rfl
  | .single s =>
    cases h
    exact Scalar.ofDouble_isNull s.widen
  | .double number =>
    cases h
    exact Scalar.ofDouble_isNull number
  | .char _ | .text _ | .variant _ _ | .record _ =>
    cases h
    rfl
  | .list items =>
    obtain ⟨values, -, rfl⟩ := map_eq_ok.1 h
    rfl
  | .compound _ | .failure _ => cases h

/-! ## Values that a condition binds -/

/-- The values that a comparison binds by themselves: the items of a collection where it takes one,
    and none where it asks for no value. -/
def Operator.bound (op : Operator) (value : FieldValue) : List FieldValue :=
  if op.isNullCheck then []
  else
    match op.takesCollection, value with
    | true, .list items => items
    | _, _ => [value]

/-- The values that a condition as written binds by themselves: the items of a collection with one
    for each placeholder, or the value for all of them. -/
def Condition.customBound (template : String) (value : FieldValue) : List FieldValue :=
  if Text.countChar '?' template = 0 then []
  else
    match value with
    | .list items => if items.length = Text.countChar '?' template then items else [value]
    | _ => [value]

/-- The values that the condition of a form binds by themselves. -/
def FilterForm.bound (value : FieldValue) : FilterForm → List FieldValue
  | .simple op => op.bound value
  | .anyOf tests => tests.flatMap fun test => test.operator.bound value
  | .custom template => Condition.customBound template value
  | .subQuery _ _ op => op.bound value
  | .nested queries op => if queries.appendWhere then op.bound value else []
  | .domainPath _ op => op.bound value

variable {x : Operand} {f : Fragment}

theorem Operand.null_mem_bindItems {items : List FieldValue} {args : List Scalar}
    (h : x.bindItems items = .ok args) :
    .null ∈ args ↔ ∃ v ∈ items, v.isNull = true := by
  constructor
  · intro hnull
    obtain ⟨v, hv, hbind⟩ := exists_of_mem_mapM h hnull
    exact ⟨v, hv, (FieldValue.bind_eq_null_iff hbind).1 rfl⟩
  · rintro ⟨v, hv, hnull⟩
    obtain ⟨arg, harg, hbind⟩ := exists_mem_of_mapM h hv
    rwa [(FieldValue.bind_eq_null_iff hbind).2 hnull] at harg

/-- A comparison binds null if and only if one of the values that it binds is null. -/
theorem Operand.null_mem_compare {column : String} {op : Operator} {result : Option Fragment}
    (h : x.compare column op = .ok result) :
    (∃ f ∈ result, .null ∈ f.args) ↔ ∃ v ∈ op.bound x.value, v.isNull = true := by
  have single {head : String} {r : Option Fragment}
      (hr : (if x.value.isCompound then x.refuse (.needsSingle op)
        else do
          let arg ← x.bind
          pure (some (Fragment.ofText head ++ Fragment.argument arg))) = .ok r) :
      (∃ f ∈ r, .null ∈ f.args) ↔ x.value.isNull = true := by
    split at hr
    · cases hr
    · simp only [bind_eq_ok, pure_eq_ok] at hr
      obtain ⟨arg, harg, rfl⟩ := hr
      simp [← FieldValue.bind_eq_null_iff harg, eq_comm]
  cases op with
  | isNull | notNull =>
    cases h
    simp [Operator.bound, Operator.isNullCheck]
  | like =>
    simp only [compare] at h
    split at h
    next text heq =>
      cases h
      simp [Operator.bound, Operator.isNullCheck, Operator.takesCollection, heq,
        FieldValue.isNull]
    · cases h
  | oneOf | noneOf =>
    simp only [compare] at h
    split at h
    next heq =>
      cases h
      simp [Operator.bound, Operator.isNullCheck, Operator.takesCollection, heq]
    next items _ heq =>
      simp only [bind_eq_ok, pure_eq_ok] at h
      obtain ⟨args, hargs, rfl⟩ := h
      simp [Operator.bound, Operator.isNullCheck, Operator.takesCollection, heq,
        null_mem_bindItems hargs]
    next => cases h
  | eq | ne | gt | ge | lt | le =>
    rw [single h]
    simp [Operator.bound, Operator.isNullCheck, Operator.takesCollection]

namespace Condition

theorem null_mem_anyOf {tests : List ColumnTest} (h : anyOf x tests = .ok (some f)) :
    .null ∈ f.args ↔
      ∃ v ∈ tests.flatMap fun test => test.operator.bound x.value, v.isNull = true := by
  obtain ⟨found, hfound, hf⟩ := anyOf_eq_some h
  have hargs : .null ∈ f.args ↔ ∃ g ∈ found.filterMap id, .null ∈ g.args := by
    rcases hf with hsingle | rfl
    · rw [hsingle]
      simp
    · simp [Fragment.parenthesized, Fragment.args_joinWith]
  have htest {test : ColumnTest} {o : Option Fragment}
      (ho : x.compare test.column test.operator = .ok o) :
      (∃ g ∈ o, .null ∈ g.args) ↔ ∃ v ∈ test.operator.bound x.value, v.isNull = true :=
    Operand.null_mem_compare ho
  rw [hargs]
  constructor
  · rintro ⟨g, hg, hnull⟩
    obtain ⟨test, hmem, hcompare⟩ := exists_test_of_mem hfound hg
    obtain ⟨v, hv, hisNull⟩ := (htest hcompare).1 ⟨g, rfl, hnull⟩
    exact ⟨v, List.mem_flatMap.2 ⟨test, hmem, hv⟩, hisNull⟩
  · rintro ⟨v, hv, hisNull⟩
    obtain ⟨test, hmem, hv⟩ := List.mem_flatMap.1 hv
    obtain ⟨o, ho, hcompare⟩ := exists_mem_of_mapM hfound hmem
    obtain ⟨g, hg, hnull⟩ := (htest hcompare).2 ⟨v, hv, hisNull⟩
    exact ⟨g, List.mem_filterMap.2 ⟨o, ho, hg⟩, hnull⟩

theorem null_mem_custom {template : String} (h : custom x template = .ok f) :
    .null ∈ f.args ↔ ∃ v ∈ customBound template x.value, v.isNull = true := by
  obtain ⟨-, hargs⟩ := custom_eq_ok h
  unfold customBound
  rcases hargs with ⟨hzero, hargs⟩ |
    ⟨hcount, ⟨items, hitems, hlength, hargs⟩ | ⟨hother, arg, harg, hargs⟩⟩
  · rw [hargs, if_pos hzero]
    simp
  · rw [if_neg hcount, hitems]
    dsimp only
    rw [if_pos hlength]
    exact Operand.null_mem_bindItems hargs
  · have hsingle : .null ∈ f.args ↔ ∃ v ∈ [x.value], v.isNull = true := by
      rw [hargs, List.mem_replicate, and_iff_right hcount, eq_comm,
        FieldValue.bind_eq_null_iff harg]
      simp
    rw [if_neg hcount]
    split
    next items hitems =>
      rw [if_neg (hother items hitems)]
      exact hsingle
    next => exact hsingle

theorem null_mem_nested {column : String} {queries : NestedQueries} {op : Operator}
    (h : nested x column queries op = .ok (some f)) :
    .null ∈ f.args ↔
      ∃ v ∈ if queries.appendWhere then op.bound x.value else [], v.isNull = true := by
  obtain ⟨level, levels, tail, -, rfl, htail⟩ := nested_eq_some h
  rcases htail with ⟨happend, g, rfl, hcompare⟩ | ⟨hbare, rfl⟩
  · rw [if_pos happend, ← Operand.null_mem_compare hcompare]
    simp
  · rw [hbare]
    simp [Fragment.empty]

theorem null_mem_domainPath {s : Settings} {path : DomainPath} {op : Operator}
    (h : domainPath x s path op = .ok (some f)) :
    .null ∈ f.args ↔ ∃ v ∈ op.bound x.value, v.isNull = true := by
  obtain ⟨hop, hops, g, -, hcompare, rfl⟩ := domainPath_eq_some h
  rw [← Operand.null_mem_compare hcompare]
  simp

end Condition

/-- The condition of a field binds null if and only if one of the values that it binds is null. -/
theorem FieldPlan.null_mem_condition {plan : FieldPlan FilterForm} {s : Settings}
    {value : FieldValue} (h : plan.condition s value = .ok (some f)) :
    .null ∈ f.args ↔ ∃ v ∈ plan.kind.bound value, v.isNull = true := by
  obtain ⟨name, column, kind, encoding⟩ := plan
  obtain ⟨-, h⟩ := poses_of_condition h
  cases kind with
  | simple op =>
    rw [FilterForm.bound, ← Operand.null_mem_compare h]
    simp
  | anyOf tests => exact Condition.null_mem_anyOf h
  | custom template => exact Condition.null_mem_custom h
  | subQuery select source op =>
    obtain ⟨g, hcompare, rfl⟩ := h
    rw [FilterForm.bound, ← Operand.null_mem_compare hcompare]
    simp [Condition.subQuery]
  | nested queries op => exact Condition.null_mem_nested h
  | domainPath path op => exact Condition.null_mem_domainPath h

/-- A condition is posed by a value that is there, and it binds null if and only if one of the
    values that it binds by themselves is null: the value where it is bound as a whole, an item
    where the items of a collection are bound one by one. What is read of a value is null if the
    value is missing or has no content, or is a number without a JSON form. -/
theorem null_mem_args_iff {plan : FieldPlan FilterForm} {s : Settings} {value : FieldValue}
    (h : plan.condition s value = .ok (some f)) :
    value.isAbsent = false ∧
    (.null ∈ f.args ↔ ∃ v ∈ plan.kind.bound value, v.isNull = true) ∧
    ∀ (d : Datum) optional v, d.read optional = .ok v → v.isNull = d.isNull := by
  obtain ⟨hidle, -⟩ := FieldPlan.poses_of_condition h
  refine ⟨?_, FieldPlan.null_mem_condition h, fun d optional v hv => Datum.isNull_of_read hv⟩
  refine Bool.eq_false_iff.2 fun habsent => ?_
  rw [FieldValue.isIdle_of_isAbsent habsent] at hidle
  cases hidle

/-- Users by ids that they must not have. -/
def ofIdsOutside : FieldPlan FilterForm := ⟨"idNotIn", "id", .simple .noneOf, .ordinal⟩

set_option maxRecDepth 20000 in
theorem null_mem_args_ofIdsOutside :
    ofIdsOutside.condition .default (.list [.scalar (.int 3), .scalar (.int 7)]) =
        .ok (some ⟨"id NOT IN (?, ?)", [.int 3, .int 7]⟩) ∧
      (.null ∈ [Scalar.int 3, .int 7] ↔
        ∃ v ∈ ofIdsOutside.kind.bound (.list [.scalar (.int 3), .scalar (.int 7)]),
          v.isNull = true) := by
  have hcondition : ofIdsOutside.condition .default (.list [.scalar (.int 3), .scalar (.int 7)]) =
      .ok (some ⟨"id NOT IN (?, ?)", [.int 3, .int 7]⟩) := by cbv
  exact ⟨hcondition, (null_mem_args_iff hcondition).2.1⟩

/-- Criteria for users by ids that they must not have and by their age. -/
def usersByAge : RecordType := ⟨"UserQuery", some ["idNotIn", "age"], "user", none, none, []⟩

/-- Users of an age. -/
def ofAgeNumber (age : Double) : Query :=
  ⟨usersByAge, .record [("age", .present (.double age))], .all⟩

set_option maxRecDepth 20000 in
theorem select_ofAgeNumber {age : Double} (h : age.isFinite = false) :
    (ofAgeNumber age).select .default [] = .ok ⟨"SELECT * FROM user WHERE age = ?", [.null]⟩ := by
  have hrecord : (ofAgeNumber age).record = .ok ⟨"UserQuery", [("age", .scalar .null)]⟩ := by
    have hread : (ofAgeNumber age).record =
        .ok ⟨"UserQuery", [("age", .scalar (.ofDouble age))]⟩ := rfl
    rw [hread, Scalar.ofDouble, h]
    rfl
  have hschema : (ofAgeNumber age).schema .default =
      .ok ⟨"UserQuery", ⟨"user", [.literal "user".toList]⟩, none, none,
        [ofIdsOutside, ⟨"age", "age", .simple .eq, .ordinal⟩]⟩ := by cbv
  refine Query.selectOver_eq_ok.2 ⟨_, hschema, ⟨"user", [], [⟨"age = ?", [.null]⟩]⟩, ?_, none, rfl,
    by cbv⟩
  exact Query.rows_eq_ok.2 ⟨_, hrecord, "user", by cbv, [], rfl, _, by cbv, rfl⟩

set_option maxRecDepth 20000 in
/-- A missing item of a list is bound as null, and so is a number that is none. -/
theorem null_bound_usersByAge :
    Query.select ⟨usersByAge, .record [("idNotIn", .list [.missing, .int ⟨true, .w64⟩ 7])], .all⟩
        .default [] =
      .ok ⟨"SELECT * FROM user WHERE id NOT IN (?, ?)", [.null, .int 7]⟩ ∧
    (ofAgeNumber ⟨0x7FF8000000000000⟩).select .default [] =
      .ok ⟨"SELECT * FROM user WHERE age = ?", [.null]⟩ := by
  refine ⟨by cbv, select_ofAgeNumber ?_⟩
  decide +kernel

end CriteriaSql
