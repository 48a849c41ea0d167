/-
  The comparison operators of a criteria field, and the suffixes by which a field's name asks for
  them: `nameLike`, `ageGe`, `statusNotIn`. A name without a suffix asks for equality.
-/
import CriteriaSql.Text.Search

namespace CriteriaSql

/-- How a column is compared with a field's value. -/
inductive Operator
  | eq | ne | noneOf | oneOf | notNull | isNull | like | gt | ge | lt | le
  deriving DecidableEq, Repr

namespace Operator

/-- The suffix that asks for the operator. -/
def suffix : Operator → String
  | eq => ""
  | ne => "Not"
  | noneOf => "NotIn"
  | oneOf => "In"
  | notNull => "NotNull"
  | isNull => "Null"
  | like => "Like"
  | gt => "Gt"
  | ge => "Ge"
  | lt => "Lt"
  | le => "Le"

/-- The operator between a column and its placeholder; a null check has none after it. -/
def sql : Operator → String
  | eq => " = "
  | ne => " != "
  | noneOf => " NOT IN "
  | oneOf => " IN "
  | notNull => " IS NOT NULL"
  | isNull => " IS NULL"
  | like => " LIKE "
  | gt => " > "
  | ge => " >= "
  | lt => " < "
  | le => " <= "

/-- The operator's name in messages: its suffix, and `Eq` where there is none. -/
def label : Operator → String
  | eq => "Eq"
  | op => op.suffix

/-- Operators that compare with a collection. -/
def takesCollection (op : Operator) : Bool := op == oneOf || op == noneOf

/-- Operators that bind no value: a value only switches them on. -/
def isNullCheck (op : Operator) : Bool := op == isNull || op == notNull

/-! ## From a field's name -/

/-- The operators with a suffix, in the order in which a name is tried: a suffix that ends in
    another one comes before it. -/
def suffixed : List Operator :=
  [notNull, noneOf, isNull, like, oneOf, gt, ge, lt, le, ne]

/-- The name without the operator's suffix, unless nothing would be left. -/
def base? (name : List Char) (op : Operator) : Option (List Char × Operator) :=
  match Text.dropEnding? op.suffix.toList name with
  | some (c :: cs) => some (c :: cs, op)
  | _ => none

/-- The base of a name and the operator its ending asks for. -/
def ofChars (name : List Char) : List Char × Operator :=
  (suffixed.findSome? (base? name)).getD (name, eq)

/-- The base of a name and the operator its ending asks for. -/
def ofName (name : String) : String × Operator :=
  let (base, op) := ofChars name.toList
  (String.ofList base, op)

theorem base?_eq_some_iff {name base : List Char} {op found : Operator} :
    base? name op = some (base, found) ↔
      found = op ∧ base ≠ [] ∧ name = base ++ op.suffix.toList := by
  rw [base?]
  cases h : Text.dropEnding? op.suffix.toList name with
  | none =>
    constructor
    · intro hn; simp at hn
    · rintro ⟨-, -, hn⟩
      rw [Text.dropEnding?_eq_some_iff.2 hn] at h
      simp at h
  | some b =>
    have hb := Text.dropEnding?_eq_some_iff.1 h
    cases b with
    | nil =>
      constructor
      · intro hn; simp at hn
      · rintro ⟨-, hne, hn⟩
        rw [Text.dropEnding?_eq_some_iff.2 hn] at h
        simp_all
    | cons c cs =>
      constructor
      · intro hs
        simp only [Option.some.injEq, Prod.mk.injEq] at hs
        obtain ⟨rfl, rfl⟩ := hs
        exact ⟨rfl, by simp, hb⟩
      · rintro ⟨rfl, -, hn⟩
        have := Text.dropEnding?_eq_some_iff.2 hn
        rw [h] at this
        simpa using this

/-- The base followed by the suffix is the name again. -/
theorem ofChars_append (name : List Char) :
    (ofChars name).1 ++ (ofChars name).2.suffix.toList = name := by
  unfold ofChars
  cases h : suffixed.findSome? (base? name) with
  | none => simp [suffix]
  | some found =>
    obtain ⟨op, -, hop⟩ := List.exists_of_findSome?_eq_some h
    obtain ⟨base, op'⟩ := found
    obtain ⟨rfl, -, hn⟩ := base?_eq_some_iff.1 hop
    exact hn.symm

end Operator

end CriteriaSql
