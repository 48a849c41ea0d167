/-
  From property names to column names, and from domain names to the names of tables and keys.
-/

namespace CriteriaSql.Naming

/-! ## Columns -/

/-- Each ASCII capital becomes an underscore and the small letter. -/
def snakeChars (cs : List Char) : List Char :=
  cs.flatMap fun c => if c.isUpper then ['_', c.toLower] else [c]

/-- `createTime` becomes `create_time`. -/
def snake (name : String) : String := String.ofList (snakeChars name.toList)

/-- The column of a property: the name as it is, or in snake case where camel case is mapped. -/
def column (mapCamelCase : Bool) (name : String) : String :=
  if mapCamelCase then snake name else name

/-! ## Formats -/

/-- Fills the slots `{}` of a format from left to right. A slot for which nothing is left is
    dropped; what is filled in is not looked at again. -/
def fillChars : List Char → List (List Char) → List Char
  | [], _ => []
  | [c], _ => [c]
  | c :: d :: rest, args =>
    if c = '\x7b' ∧ d = '\x7d' then
      match args with
      | [] => fillChars rest []
      | arg :: args => arg ++ fillChars rest args
    else c :: fillChars (d :: rest) args

/-- Fills the slots of a format from left to right. -/
def fill (format : String) (args : List String) : String :=
  String.ofList (fillChars format.toList (args.map String.toList))

/-- The number of slots of a format. -/
def slotsChars : List Char → Nat
  | [] => 0
  | [_] => 0
  | c :: d :: rest =>
    if c = '\x7b' ∧ d = '\x7d' then slotsChars rest + 1 else slotsChars (d :: rest)

/-- The number of slots of a format. -/
def slots (format : String) : Nat := slotsChars format.toList

end CriteriaSql.Naming
