/-
  The columns of properties. In snake case no capital is left, so a property's column has the name
  of the property if and only if camel case is not mapped or the property has no ASCII capital
  (`column_eq_self_iff`). Every capital leaves an underscore in the column.
-/
import CriteriaSql.Naming
import Mathlib

namespace CriteriaSql.Naming

variable {cs : List Char} {c : Char} {mapCamelCase : Bool} {name : String}

/-! ## Snake case -/

theorem snakeChars_cons (c : Char) (cs : List Char) :
    snakeChars (c :: cs) = (if c.isUpper then ['_', c.toLower] else [c]) ++ snakeChars cs := rfl

/-- No capital is left in snake case. -/
theorem isUpper_of_mem_snakeChars (h : c ∈ snakeChars cs) : c.isUpper = false := by
  obtain ⟨d, -, hc⟩ := List.mem_flatMap.1 h
  split at hc
  next =>
    rw [List.mem_pair] at hc
    rcases hc with rfl | rfl
    · decide
    · exact Char.isUpper_toLower_eq_false d
  next hd =>
    rw [List.mem_singleton.1 hc]
    exact Bool.eq_false_iff.2 hd

theorem snakeChars_eq_self_iff : snakeChars cs = cs ↔ ∀ c ∈ cs, c.isUpper = false := by
  constructor
  · intro hsame c hc
    rw [← hsame] at hc
    exact isUpper_of_mem_snakeChars hc
  · intro h
    induction cs with
    | nil => rfl
    | cons c cs ih =>
      obtain ⟨hc, hcs⟩ := List.forall_mem_cons.1 h
      rw [snakeChars_cons, if_neg (Bool.eq_false_iff.1 hc), ih hcs, List.singleton_append]

/-- Without an underscore, no capital was replaced. -/
theorem snakeChars_eq_self (h : '_' ∉ snakeChars cs) : snakeChars cs = cs := by
  refine snakeChars_eq_self_iff.2 fun c hc => Bool.eq_false_iff.2 fun hupper => h ?_
  exact List.mem_flatMap.2 ⟨c, hc, by rw [if_pos hupper]; exact List.mem_cons_self⟩

/-! ## Columns -/

/-- Whether a property's column has the name of the property. -/
def Keeps (mapCamelCase : Bool) (name : String) : Prop :=
  mapCamelCase = false ∨ ∀ c ∈ name.toList, c.isUpper = false

theorem toList_column_true (name : String) :
    (column true name).toList = snakeChars name.toList := String.toList_ofList

theorem column_eq_self_iff : column mapCamelCase name = name ↔ Keeps mapCamelCase name := by
  cases mapCamelCase with
  | false => exact iff_of_true rfl (Or.inl rfl)
  | true =>
    rw [← String.toList_inj, toList_column_true, snakeChars_eq_self_iff]
    exact (or_iff_right nofun).symm

/-- A column without an underscore is that of its own name only. -/
theorem column_eq_iff {text : String} (htext : '_' ∉ text.toList)
    (hfixed : column mapCamelCase text = text) : column mapCamelCase name = text ↔ name = text := by
  constructor
  · intro h
    cases mapCamelCase with
    | false => exact h
    | true =>
      rw [← String.toList_inj, toList_column_true] at h
      rw [← h] at htext
      rw [snakeChars_eq_self htext] at h
      exact String.toList_inj.1 h
  · rintro rfl
    exact hfixed

theorem column_eq_id_iff : column mapCamelCase name = "id" ↔ name = "id" :=
  column_eq_iff (by decide) (by cases mapCamelCase <;> rfl)

/-- A capital is in a column no more often than in its property. -/
theorem count_column_le (mapCamelCase : Bool) (name : String) (hc : c.isUpper = true) :
    (column mapCamelCase name).toList.count c ≤ name.toList.count c := by
  cases mapCamelCase with
  | false => exact le_rfl
  | true =>
    have hnone : c ∉ (column true name).toList := by
      rw [toList_column_true]
      intro hmem
      rw [isUpper_of_mem_snakeChars hmem] at hc
      cases hc
    rw [List.count_eq_zero.2 hnone]
    exact Nat.zero_le _

end CriteriaSql.Naming
