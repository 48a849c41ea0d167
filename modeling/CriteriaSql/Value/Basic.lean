/-
  The values that fields hold, and their forms as JSON and as arguments of a statement.
-/
import CriteriaSql.Json.Compact

namespace CriteriaSql

/-! ## What cannot be bound -/

/-- Compound values that no field can hold. -/
inductive Compound
  | bytes
  | taggedValue
  | taggedTuple
  | map
  | taggedRecord
  deriving DecidableEq, Repr

/-- Why a value cannot be bound. -/
inductive Unsupported
  | compound (c : Compound)
  | signedRange
  | unsignedRange
  deriving DecidableEq, Repr

/-- The kind of value in messages. -/
def Compound.label : Compound → String
  | bytes => "bytes"
  | taggedValue => "newtype variant"
  | taggedTuple => "tuple variant"
  | map => "map"
  | taggedRecord => "struct variant"

/-- The reason in messages. -/
def Unsupported.label : Unsupported → String
  | compound c => c.label
  | signedRange => "i128 out of range"
  | unsignedRange => "u128 out of range"

/-! ## Field values -/

/-- The value of a field. A truth value is a `flag` where the field cannot be missing, and a scalar
    where it can. -/
inductive FieldValue
  | absent
  | flag (b : Bool)
  | scalar (s : Scalar)
  | variant (index : Nat) (name : String)
  | list (items : List FieldValue)
  | record (fields : List (String × FieldValue))
  | unsupported (why : Unsupported)

/-- What stands for a variant: its number in the declaration, or its name. -/
inductive Encoding
  | ordinal
  | name
  deriving DecidableEq, Repr

namespace FieldValue

/-- No value at all. -/
def isAbsent : FieldValue → Bool
  | absent => true
  | _ => false

/-- A value that leaves a condition out: none at all, or a flag that is not set. -/
def isIdle : FieldValue → Bool
  | absent => true
  | flag false => true
  | _ => false

/-- A collection or a record, for which no single placeholder can stand in a comparison. -/
def isCompound : FieldValue → Bool
  | list _ => true
  | record _ => true
  | _ => false

mutual

/-- The JSON form of a value; the first part that has none, if there is one. -/
def toJson (encoding : Encoding) : FieldValue → Except Unsupported Json
  | .absent => .ok Json.null
  | .flag b => .ok (.scalar (.bool b))
  | .scalar s => .ok (.scalar s)
  | .variant index name =>
    match encoding with
    | .ordinal => .ok (Json.int index)
    | .name => .ok (Json.text name)
  | .list items => (itemsToJson encoding items).map .array
  | .record fields => (fieldsToJson encoding fields).map fun fs => .object (Json.distinctFields fs)
  | .unsupported why => .error why

/-- The JSON forms of the items of a list. -/
def itemsToJson (encoding : Encoding) : List FieldValue → Except Unsupported (List Json)
  | [] => .ok []
  | item :: items => do
    let j ← toJson encoding item
    let js ← itemsToJson encoding items
    pure (j :: js)

/-- The JSON forms of the fields of a record. -/
def fieldsToJson (encoding : Encoding) :
    List (String × FieldValue) → Except Unsupported (List (String × Json))
  | [] => .ok []
  | (name, value) :: fields => do
    let j ← toJson encoding value
    let js ← fieldsToJson encoding fields
    pure ((name, j) :: js)

end

/-- The value as one argument; a collection or record is bound as its JSON text. -/
def toScalar (encoding : Encoding) (value : FieldValue) : Except Unsupported Scalar :=
  (value.toJson encoding).map Json.toScalar

theorem isIdle_of_isAbsent {value : FieldValue} (h : value.isAbsent = true) :
    value.isIdle = true := by
  cases value <;> simp_all [isAbsent, isIdle]

end FieldValue

end CriteriaSql
