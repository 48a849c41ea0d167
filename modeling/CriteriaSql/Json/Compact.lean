/-
  The compact text of a JSON value: no blanks, fields in order, and in strings only quotes,
  backslashes and control characters escaped.
-/
import CriteriaSql.Json.Basic
import CriteriaSql.Number.Decimal

namespace CriteriaSql

/-! ## Strings -/

/-- One character inside a JSON string. -/
def Json.escapeChar (c : Char) : List Char :=
  if c = '"' ∨ c = '\\' then ['\\', c]
  else if c = '\x08' then ['\\', 'b']
  else if c = '\x0c' then ['\\', 'f']
  else if c = '\n' then ['\\', 'n']
  else if c = '\r' then ['\\', 'r']
  else if c = '\t' then ['\\', 't']
  else if c.toNat < 0x20 then
    ['\\', 'u', '0', '0', Nat.digitChar (c.toNat / 16), Nat.digitChar (c.toNat % 16)]
  else [c]

/-- A JSON string with its quotes. -/
def Json.stringText (s : String) : String :=
  String.ofList ('"' :: s.toList.flatMap escapeChar ++ ['"'])

/-! ## Values -/

/-- The JSON text of a scalar. -/
def Scalar.compact : Scalar → String
  | .null => "null"
  | .bool true => "true"
  | .bool false => "false"
  | .int n => toString n
  | .double d => d.text
  | .text s => Json.stringText s

namespace Json

mutual

/-- The JSON text of a value. -/
def compact : Json → String
  | .scalar s => s.compact
  | .array items => "[" ++ ",".intercalate (compactItems items) ++ "]"
  | .object fields => "\x7b" ++ ",".intercalate (compactFields fields) ++ "\x7d"

/-- The texts of the items of an array. -/
def compactItems : List Json → List String
  | [] => []
  | item :: items => item.compact :: compactItems items

/-- The texts of the fields of an object. -/
def compactFields : List (String × Json) → List String
  | [] => []
  | (key, value) :: fields => (stringText key ++ ":" ++ value.compact) :: compactFields fields

end

/-- The value as one argument: a scalar as it is, an array or object as its text. -/
def toScalar : Json → Scalar
  | .scalar s => s
  | j => .text j.compact

end Json

end CriteriaSql
