/-
  Sort expressions: items separated by semicolons, each a field and an optional direction behind a
  comma. Anything else is refused, so that no other text can reach an ORDER BY clause.
-/
import CriteriaSql.Error
import CriteriaSql.Naming
import CriteriaSql.Text.Blank
import CriteriaSql.Text.Word

namespace CriteriaSql

/-- One item of a sort expression, the direction as it was written. -/
structure OrderItem where
  field : String
  direction : Option String
  deriving DecidableEq, Repr

namespace OrderBy

/-! ## Letters without regard to case -/

/-- Whether a character is the given small letter in either case; the long s is a case of `s`. -/
def isCaseOf (letter c : Char) : Bool :=
  c.toLower == letter || (letter == 's' && c.toNat == 0x17F)

/-- `asc` or `desc`, without regard to case. -/
def isDirection (cs : List Char) : Bool :=
  match cs with
  | [a, b, c] => isCaseOf 'a' a && isCaseOf 's' b && isCaseOf 'c' c
  | [a, b, c, d] => isCaseOf 'd' a && isCaseOf 'e' b && isCaseOf 's' c && isCaseOf 'c' d
  | _ => false

/-- The first character of a field: an ASCII letter, a letter with such a letter as another case
    (the long s and the kelvin sign), or an underscore. -/
def isFieldStart (c : Char) : Bool :=
  c.isAlpha || c == '_' || c.toNat == 0x17F || c.toNat == 0x212A

/-- A later character of a field. -/
def isFieldChar (c : Char) : Bool := Text.isWord c || c == '.'

/-! ## Items -/

/-- Reads a field and a direction behind a comma. -/
def itemOfChars? : List Char → Option (List Char × Option (List Char))
  | [] => none
  | c :: cs =>
    if isFieldStart c then
      match cs.dropWhile isFieldChar with
      | [] => some (c :: cs.takeWhile isFieldChar, none)
      | d :: rest =>
        if d = ',' ∧ isDirection rest then some (c :: cs.takeWhile isFieldChar, some rest)
        else none
    else none

/-- Reads one segment of a sort expression. -/
def item? (segment : String) : Option OrderItem :=
  (itemOfChars? segment.toList).map fun (field, direction) =>
    ⟨String.ofList field, direction.map String.ofList⟩

/-- The segments of a sort expression: trimmed, without the empty ones. -/
def segments (sort : String) : List String :=
  ((sort.toList.splitOn ';').map fun cs => String.ofList (Text.trimChars cs)).filter (· != "")

/-- The items of a sort expression, in order; the first segment that is none is an error. -/
def items (sort : String) : Except Error (List OrderItem) :=
  (segments sort).mapM fun segment =>
    match item? segment with
    | some item => .ok item
    | none => .error (.invalidSort segment)

end OrderBy

/-- The text of an item in an ORDER BY clause. -/
def OrderItem.sql (mapCamelCase : Bool) (item : OrderItem) : String :=
  let column := Naming.column mapCamelCase item.field
  match item.direction with
  | some direction => column ++ " " ++ direction
  | none => column

/-- The body of an ORDER BY clause, if the sort expression has any item. -/
def OrderBy.ofSort (mapCamelCase : Bool) (sort : String) : Except Error (Option String) := do
  let items ← OrderBy.items sort
  if items.isEmpty then pure none
  else pure (some (", ".intercalate (items.map (OrderItem.sql mapCamelCase))))

end CriteriaSql
