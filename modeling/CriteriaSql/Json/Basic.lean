/-
  JSON values with ordered fields, and the scalars among them that a statement can bind.
-/
import CriteriaSql.Number.Binary

namespace CriteriaSql

/-! ## Scalars -/

/-- A value that one placeholder can stand for. -/
inductive Scalar
  | null
  | bool (b : Bool)
  | int (n : Int)
  | double (d : Double)
  | text (s : String)
  deriving DecidableEq, Repr

/-- A number with a JSON form is itself; an infinity or no number at all is null. -/
def Scalar.ofDouble (d : Double) : Scalar := if d.isFinite then .double d else .null

/-! ## Values -/

/-- A JSON value. The fields of an object are in order. -/
inductive Json
  | scalar (s : Scalar)
  | array (items : List Json)
  | object (fields : List (String × Json))

namespace Json

/-- The value of what is missing. -/
def null : Json := .scalar .null

/-- A string. -/
def text (s : String) : Json := .scalar (.text s)

/-- An integer. -/
def int (n : Int) : Json := .scalar (.int n)

/-- The object with one field. -/
def field (key : String) (value : Json) : Json := .object [(key, value)]

/-- Puts a field into an object: at the end, or in the place of the field of that key. -/
def putField {α : Type} (fields : List (String × α)) (key : String) (value : α) :
    List (String × α) :=
  match fields with
  | [] => [(key, value)]
  | (k, v) :: rest => if k = key then (k, value) :: rest else (k, v) :: putField rest key value

/-- The fields with each key once: where it first stood, with the value it had last. -/
def distinctFields {α : Type} (fields : List (String × α)) : List (String × α) :=
  fields.foldl (fun done f => putField done f.1 f.2) []

theorem putField_of_not_mem {α : Type} {fields : List (String × α)} {key : String} {value : α}
    (h : key ∉ fields.map Prod.fst) : putField fields key value = fields ++ [(key, value)] := by
  induction fields with
  | nil => rfl
  | cons f rest ih =>
    obtain ⟨k, v⟩ := f
    simp only [List.map_cons, List.mem_cons, not_or] at h
    simp [putField, Ne.symm h.1, ih h.2]

theorem mem_keys_putField {α : Type} {fields : List (String × α)} {key k : String} {value : α} :
    k ∈ (putField fields key value).map Prod.fst ↔ k = key ∨ k ∈ fields.map Prod.fst := by
  induction fields with
  | nil => simp [putField]
  | cons f rest ih =>
    obtain ⟨k', v'⟩ := f
    by_cases h : k' = key
    · simp [putField, h]
    · simp only [putField, h, if_false, List.map_cons, List.mem_cons, ih]
      constructor <;> rintro (h | h | h) <;> simp [h]

end Json

end CriteriaSql
