/-
  Records: the named values of a criteria object, an entity or an id, in order.
-/
import CriteriaSql.Error
import CriteriaSql.Value.Datum

namespace CriteriaSql

/-- The fields of a value that was read, in order. Names may repeat; the first one counts. -/
structure Record where
  typeName : String
  entries : List (String × FieldValue)

namespace Record

/-- No fields at all. -/
def empty : Record := ⟨"", []⟩

/-- The value of a field; absent where there is none of that name. -/
def get (r : Record) (name : String) : FieldValue :=
  match r.entries.find? (·.1 == name) with
  | some entry => entry.2
  | none => .absent

/-- Reads the fields of a value. Only a record has fields; a failure outside every field is an
    error of its own. -/
def read (typeName : String) (value : Datum) : Except Error Record :=
  match value.read false with
  | .ok (.record entries) => .ok ⟨typeName, entries⟩
  | .ok _ => .error (.notAStruct typeName)
  | .error (.unsupported _) => .error (.notAStruct typeName)
  | .error (.failed message) => .error (.unreadable typeName message)

theorem get_empty (name : String) : empty.get name = .absent := rfl

theorem get_cons_self (typeName name : String) (value : FieldValue)
    (entries : List (String × FieldValue)) :
    (Record.mk typeName ((name, value) :: entries)).get name = value := by
  simp [get]

end Record

namespace FieldValue

/-- The value as the argument of a field. -/
def bind (value : FieldValue) (field : String) (encoding : Encoding) : Except Error Scalar :=
  (value.toScalar encoding).mapError fun why => .valueShape field (.notBindable why)

/-- The value as the JSON operand of a field. -/
def operand (value : FieldValue) (field : String) (encoding : Encoding) : Except Error Json :=
  (value.toJson encoding).mapError fun why => .valueShape field (.notBindable why)

end FieldValue

end CriteriaSql
