/-
  Pages: which rows of an ordered result are asked for, and in which order.
-/
import CriteriaSql.Json.Compact
import CriteriaSql.Page.OrderBy

namespace CriteriaSql

/-- The page of a result. Pages are numbered from zero. -/
structure Page where
  number : Option UInt32
  size : Option UInt32
  sort : Option String
  deriving DecidableEq, Repr

namespace Page

/-! ## Rows -/

/-- All rows, in no particular order. -/
def all : Page := ⟨none, none, none⟩

/-- The page size where none is given. -/
def defaultSize : UInt32 := 10

/-- The page size that counts. -/
def effectiveSize (p : Page) : UInt32 := p.size.getD defaultSize

/-- Whether rows are cut off: a number or a size is given, and the size that counts is positive. -/
def isCut (p : Page) : Bool := (p.number.isSome || p.size.isSome) && 0 < p.effectiveSize

/-- The number of rows before the page. The product of two such words always fits. -/
def offset (p : Page) : UInt64 := (p.number.getD 0).toUInt64 * p.effectiveSize.toUInt64

/-- The page of a number and a size, in the same order. -/
def numbered (p : Page) (number size : UInt32) : Page :=
  { p with number := some number, size := some size }

/-- The same page in another order. -/
def sorted (p : Page) (sort : String) : Page := { p with sort := some sort }

/-- The body of the ORDER BY clause. -/
def orderBy (p : Page) (mapCamelCase : Bool) : Except Error (Option String) :=
  match p.sort with
  | some sort => OrderBy.ofSort mapCamelCase sort
  | none => .ok none

/-! ## JSON -/

/-- The JSON form of a page. -/
def toJson (p : Page) : Json :=
  let word (n : Option UInt32) : Json := n.elim Json.null fun n => Json.int n.toNat
  .object [("pageNumber", word p.number), ("pageSize", word p.size),
    ("sort", p.sort.elim Json.null Json.text)]

/-- Reads a number or size: null, or an integer that fits. -/
def word? : Json → Option (Option UInt32)
  | .scalar .null => some none
  | .scalar (.int n) =>
    if 0 ≤ n ∧ n < 0x100000000 then some (some (UInt32.ofNat n.toNat)) else none
  | _ => none

/-- Reads a sort expression: null or a string. -/
def sort? : Json → Option (Option String)
  | .scalar .null => some none
  | .scalar (.text s) => some (some s)
  | _ => none

/-- Reads the three parts of a page. -/
def ofParts? (number size sort : Json) : Option Page := do
  let number ← word? number
  let size ← word? size
  let sort ← sort? sort
  pure ⟨number, size, sort⟩

/-- The value of a key, null where it is missing. -/
def part (fields : List (String × Json)) (key : String) : Json :=
  match fields.find? (·.1 == key) with
  | some f => f.2
  | none => Json.null

/-- Reads a page: an object of its parts, or an array of them in order. Missing parts are null, and
    so is a page of which nothing is said. -/
def ofJson? : Json → Option Page
  | .scalar .null => some all
  | .object fields =>
    ofParts? (part fields "pageNumber") (part fields "pageSize") (part fields "sort")
  | .array [] => some all
  | .array [number] => ofParts? number .null .null
  | .array [number, size] => ofParts? number size .null
  | .array [number, size, sort] => ofParts? number size sort
  | _ => none

theorem ofJson?_toJson (p : Page) : ofJson? p.toJson = some p := by
  obtain ⟨number, size, sort⟩ := p
  have hw (n : Option UInt32) :
      word? (n.elim Json.null fun n => Json.int n.toNat) = some n := by
    cases n with
    | none => rfl
    | some n =>
      have := n.toNat_lt
      simp only [Option.elim, Json.int, word?]
      rw [if_pos ⟨by omega, by omega⟩]
      simp
  have hs : sort? (sort.elim Json.null Json.text) = some sort := by cases sort <;> rfl
  simp [ofJson?, toJson, part, ofParts?, hw, hs]

end Page

end CriteriaSql
