/-
  What the name of a criteria field says: the members it offers as alternatives, separated by `Or`,
  and the operator each of them asks for. `usernameOrEmailLike` offers `username` and `email`, both
  compared by `LIKE`.
-/
import CriteriaSql.Operator
import CriteriaSql.Text.Lowercase

namespace CriteriaSql.FieldName

/-! ## Alternatives -/

/-- The characters with the first one in lower case. -/
def uncapitalizeChars : List Char → List Char
  | [] => []
  | c :: cs => Text.lowercase c ++ cs

/-- The name with its first letter in lower case. -/
def uncapitalize (name : String) : String := String.ofList (uncapitalizeChars name.toList)

/-- A character in front of the first part. -/
def consPart (c : Char) (parts : List Char × List (List Char)) : List Char × List (List Char) :=
  (c :: parts.1, parts.2)

/-- What follows the first character of a part: the rest of it, and the parts after it. A part ends
    before `Or` with an ASCII capital behind it; the capital begins the next part. -/
def tailParts : List Char → List Char × List (List Char)
  | [] => ([], [])
  | [c] => ([c], [])
  | [c, d] => ([c, d], [])
  | c :: d :: e :: rest =>
    if c = 'O' ∧ d = 'r' ∧ e.isUpper then
      let next := consPart e (tailParts rest)
      ([], next.1 :: next.2)
    else consPart c (tailParts (d :: e :: rest))

/-- The parts of a name as they are spelled in it. A part has at least one character before the
    `Or` that ends it. -/
def spelledParts : List Char → List (List Char)
  | [] => [[]]
  | c :: cs =>
    let parts := consPart c (tailParts cs)
    parts.1 :: parts.2

/-- The alternatives a name offers, each with its first letter in lower case from the second on. -/
def alternatives (name : String) : List String :=
  match spelledParts name.toList with
  | [] => []
  | first :: rest => String.ofList first :: rest.map fun p => String.ofList (uncapitalizeChars p)

theorem tailParts_join (cs : List Char) :
    (tailParts cs).1 ++ (tailParts cs).2.flatMap (fun p => 'O' :: 'r' :: p) = cs := by
  fun_induction tailParts cs with
  | case1 => rfl
  | case2 => rfl
  | case3 => rfl
  | case4 c d e rest h next ih =>
    obtain ⟨rfl, rfl, -⟩ := h
    simp [next, consPart, ih]
  | case5 c d e rest h ih => simp [consPart, ih]

theorem intercalate_or (part : List Char) (parts : List (List Char)) :
    ['O', 'r'].intercalate (part :: parts) = part ++ parts.flatMap (fun p => 'O' :: 'r' :: p) := by
  induction parts generalizing part with
  | nil => simp [List.intercalate]
  | cons next rest ih =>
    have hrest := ih next
    simp only [List.intercalate, List.intersperse_cons_cons, List.flatten_cons] at hrest ⊢
    rw [hrest]
    simp

/-- The parts with `Or` between them are the name again. -/
theorem spelledParts_join (name : List Char) :
    ['O', 'r'].intercalate (spelledParts name) = name := by
  cases name with
  | nil => rfl
  | cons c cs => rw [spelledParts, intercalate_or]; simp [consPart, tailParts_join]

/-! ## Members -/

/-- One alternative: the property it names and the operator it asks for. -/
structure Member where
  base : String
  operator : Operator
  deriving DecidableEq, Repr

/-- The members with the operators their own endings ask for. -/
def ownMembers (name : String) : List Member :=
  (alternatives name).map fun part =>
    let (base, op) := Operator.ofName part
    ⟨base, op⟩

/-- The operator of the last of the members. -/
def lastOperator (members : List Member) : Operator :=
  match members.getLast? with
  | some m => m.operator
  | none => .eq

/-- The members of a name. One without a suffix takes the operator of the last one. -/
def members (name : String) : List Member :=
  let own := ownMembers name
  own.map fun m => if m.operator = .eq then ⟨m.base, lastOperator own⟩ else m

/-- Whether the name offers more than one member. -/
def isGroup (name : String) : Bool := (members name).length > 1

/-- The operator that stands for the whole group. -/
def groupOperator (name : String) : Operator := lastOperator (members name)

end CriteriaSql.FieldName
