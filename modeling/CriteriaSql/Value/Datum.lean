/-
  How a value presents itself, and what a field reads from it. The reader keeps what JSON would
  lose: whether a truth value may be missing, and the number of a variant beside its name.
-/
import CriteriaSql.Value.Basic

namespace CriteriaSql

/-! ## Integers -/

/-- The widths of integers, in bits. -/
inductive Width
  | w8 | w16 | w32 | w64 | w128
  deriving DecidableEq, Repr

/-- The number of bits. -/
def Width.bits : Width → Nat
  | w8 => 8
  | w16 => 16
  | w32 => 32
  | w64 => 64
  | w128 => 128

/-- A type of integers. -/
structure IntType where
  signed : Bool
  width : Width
  deriving DecidableEq, Repr

namespace IntType

/-- The smallest integer of the type. -/
def least (t : IntType) : Int := if t.signed then -(twoTo (t.width.bits - 1) : Int) else 0

/-- The largest integer of the type. -/
def greatest (t : IntType) : Int :=
  if t.signed then (twoTo (t.width.bits - 1) : Int) - 1 else (twoTo t.width.bits : Int) - 1

/-- Whether the type has the integer. -/
def holds (t : IntType) (n : Int) : Bool := t.least ≤ n && n ≤ t.greatest

/-- The widest type of the same sign whose integers can be bound. -/
def bindable (t : IntType) : IntType := ⟨t.signed, .w64⟩

end IntType

/-! ## Presented values -/

/-- A value as it presents itself. `missing` and `present` are the two cases of a value that may be
    missing; `wrapped` is a value under a type name of its own; `failure` is a value that cannot
    present itself. -/
inductive Datum
  | missing
  | present (value : Datum)
  | bool (b : Bool)
  | int (type : IntType) (n : Int)
  | single (s : Single)
  | double (d : Double)
  | char (c : Char)
  | text (s : String)
  | unit
  | variant (index : Nat) (name : String)
  | wrapped (value : Datum)
  | list (items : List Datum)
  | record (fields : List (String × Datum))
  | compound (c : Compound)
  | failure (message : String)

/-- Why a value could not be read. -/
inductive ReadFailure
  | failed (message : String)
  | unsupported (why : Unsupported)
  deriving DecidableEq, Repr

/-- What a field holds whose value could or could not be read: a value that fails is absent. -/
def ReadFailure.fieldValue : ReadFailure → FieldValue
  | failed _ => .absent
  | unsupported why => .unsupported why

namespace Datum

/-- An integer within what can be bound, whatever its type. -/
def readInt (type : IntType) (n : Int) : Except ReadFailure FieldValue :=
  match type.width with
  | .w128 =>
    if type.bindable.holds n then .ok (.scalar (.int n))
    else .error (.unsupported (if type.signed then .signedRange else .unsignedRange))
  | _ => .ok (.scalar (.int n))

mutual

/-- The field value that a presented value gives; `optional` inside a value that may be missing. A
    record absorbs the failures of its fields, a list passes on the first one of its items. -/
def read (optional : Bool) : Datum → Except ReadFailure FieldValue
  | .missing => .ok .absent
  | .present value => read true value
  | .bool b => .ok (if optional then .scalar (.bool b) else .flag b)
  | .int type n => readInt type n
  | .single s => .ok (.scalar (.ofDouble s.widen))
  | .double d => .ok (.scalar (.ofDouble d))
  | .char c => .ok (.scalar (.text (String.singleton c)))
  | .text s => .ok (.scalar (.text s))
  | .unit => .ok .absent
  | .variant index name => .ok (.variant index name)
  | .wrapped value => read optional value
  | .list items => (readItems items).map .list
  | .record fields => .ok (.record (readFields fields))
  | .compound c => .error (.unsupported (.compound c))
  | .failure message => .error (.failed message)

/-- The values of the items of a list. -/
def readItems : List Datum → Except ReadFailure (List FieldValue)
  | [] => .ok []
  | item :: items => do
    let v ← read false item
    let vs ← readItems items
    pure (v :: vs)

/-- The values of the fields of a record. -/
def readFields : List (String × Datum) → List (String × FieldValue)
  | [] => []
  | (name, value) :: fields =>
    let v :=
      match read false value with
      | .ok v => v
      | .error cause => cause.fieldValue
    (name, v) :: readFields fields

end

end Datum

end CriteriaSql
