/-
  Snake case and back. Behind an underscore of snake case stands the small letter of the capital
  that the underscore is from, so camel case is read back from it. Names without an underscore are
  in camel case already: each of them is read back, and no two have one column. In general two names
  have one column exactly where they are the same in camel case (`snake_eq_snake_iff`).
-/
import CriteriaSql.Proofs.Name.Column
import Mathlib

namespace CriteriaSql.Naming

variable {cs xs ys : List Char} {c d : Char} {name left right : String}

/-! ## Camel case -/

/-- Each underscore with a small letter behind it becomes the capital. -/
def camelChars : List Char → List Char
  | [] => []
  | [c] => [c]
  | c :: d :: rest =>
    if c = '_' ∧ d.isLower then d.toUpper :: camelChars rest else c :: camelChars (d :: rest)

/-- `create_time` becomes `createTime`. -/
def camel (name : String) : String := String.ofList (camelChars name.toList)

theorem camelChars_cons_of_ne (h : c ≠ '_') (cs : List Char) :
    camelChars (c :: cs) = c :: camelChars cs := by
  cases cs with
  | nil => rfl
  | cons d rest => rw [camelChars, if_neg fun hcut => h hcut.1]

theorem camelChars_underscore_lower (h : d.isLower = true) (cs : List Char) :
    camelChars ('_' :: d :: cs) = d.toUpper :: camelChars cs := by
  rw [camelChars, if_pos ⟨rfl, h⟩]

/-- An underscore stays where no small letter is behind it. -/
theorem camelChars_underscore (h : ∀ d, cs.head? = some d → d.isLower = false) :
    camelChars ('_' :: cs) = '_' :: camelChars cs := by
  cases cs with
  | nil => rfl
  | cons d rest =>
    have hd := h d rfl
    rw [camelChars, if_neg]
    rintro ⟨-, hlower⟩
    rw [hd] at hlower
    cases hlower

/-- A name without an underscore is in camel case. -/
theorem camelChars_eq_self (h : '_' ∉ cs) : camelChars cs = cs := by
  induction cs with
  | nil => rfl
  | cons c cs ih =>
    rw [List.mem_cons, not_or] at h
    rw [camelChars_cons_of_ne (Ne.symm h.1), ih h.2]

/-! ## There and back -/

theorem snakeChars_upper (h : c.isUpper = true) (cs : List Char) :
    snakeChars (c :: cs) = '_' :: c.toLower :: snakeChars cs := by
  rw [snakeChars_cons, if_pos h]
  rfl

theorem snakeChars_other (h : c.isUpper = false) (cs : List Char) :
    snakeChars (c :: cs) = c :: snakeChars cs := by
  rw [snakeChars_cons, if_neg (Bool.eq_false_iff.1 h)]
  rfl

/-- The capital is read back from what stands for it in snake case. -/
theorem camelChars_underscore_toLower (h : c.isUpper = true) (cs : List Char) :
    camelChars ('_' :: c.toLower :: cs) = c :: camelChars cs := by
  have hlower : c.toLower.isLower = true := by
    rw [Char.isLower_toLower_eq_isAlpha, Char.isAlpha, h, Bool.true_or]
  have hback : c.toLower.toUpper = c := by
    rw [Char.toUpper_toLower_eq_toUpper]
    exact Char.toUpper_eq_of_not_isLower (Char.not_isLower_of_isUpper h)
  rw [camelChars_underscore_lower hlower, hback]

/-- A capital that camel case puts for a small letter is an underscore and that letter. -/
theorem snakeChars_toUpper (h : c.isLower = true) (cs : List Char) :
    snakeChars (c.toUpper :: cs) = '_' :: c :: snakeChars cs := by
  have hupper : c.toUpper.isUpper = true := by
    rw [Char.isUpper_toUpper_eq_isAlpha, Char.isAlpha, h, Bool.or_true]
  have hback : c.toUpper.toLower = c := by
    rw [Char.toLower_toUpper_eq_toLower]
    exact Char.toLower_eq_of_not_isUpper (Char.not_isUpper_of_isLower h)
  rw [snakeChars_upper hupper, hback]

/-- An underscore and a small letter stay in snake case. -/
theorem snakeChars_underscore_lower (h : c.isLower = true) (cs : List Char) :
    snakeChars ('_' :: c :: cs) = '_' :: c :: snakeChars cs := by
  have hsmall : c.isUpper = false := Bool.eq_false_iff.2 (Char.not_isUpper_of_isLower h)
  rw [snakeChars_other (by decide), snakeChars_other hsmall]

/-- The first character in snake case is an underscore or that of the name. -/
theorem head?_snakeChars {first : Char} (h : (snakeChars cs).head? = some first) :
    first = '_' ∨ cs.head? = some first := by
  cases cs with
  | nil => cases h
  | cons c cs =>
    cases hc : c.isUpper with
    | true =>
      rw [snakeChars_upper hc] at h
      exact Or.inl (Option.some.inj h).symm
    | false =>
      rw [snakeChars_other hc] at h
      exact Or.inr h

/-- Camel case does not see whether a name was put into snake case. -/
theorem camelChars_snakeChars (cs : List Char) : camelChars (snakeChars cs) = camelChars cs := by
  fun_induction camelChars cs with
  | case1 => rfl
  | case2 c =>
    cases hc : c.isUpper with
    | true =>
      rw [snakeChars_upper hc, camelChars_underscore_toLower hc]
      rfl
    | false =>
      rw [snakeChars_other hc]
      rfl
  | case3 c d rest hcut ih =>
    obtain ⟨rfl, hd⟩ := hcut
    rw [snakeChars_underscore_lower hd, camelChars_underscore_lower hd, ih]
  | case4 c d rest hcut ih =>
    cases hc : c.isUpper with
    | true =>
      rw [snakeChars_upper hc, camelChars_underscore_toLower hc, ih]
    | false =>
      rw [snakeChars_other hc]
      by_cases hmark : c = '_'
      · subst hmark
        rw [camelChars_underscore, ih]
        -- what follows the underscore is another one or the character of the name
        intro first hfirst
        rcases head?_snakeChars hfirst with rfl | hsame
        · decide
        · obtain rfl := Option.some.inj hsame
          exact Bool.eq_false_iff.2 fun hlower => hcut ⟨rfl, hlower⟩
      · rw [camelChars_cons_of_ne hmark, ih]

/-- Snake case does not see whether a name was put into camel case. -/
theorem snakeChars_camelChars (cs : List Char) : snakeChars (camelChars cs) = snakeChars cs := by
  fun_induction camelChars cs with
  | case1 => rfl
  | case2 c => rfl
  | case3 c d rest hcut ih =>
    obtain ⟨rfl, hd⟩ := hcut
    rw [snakeChars_toUpper hd, snakeChars_underscore_lower hd, ih]
  | case4 c d rest hcut ih => rw [snakeChars_cons, ih, ← snakeChars_cons]

/-! ## Names -/

theorem toList_snake (name : String) : (snake name).toList = snakeChars name.toList :=
  String.toList_ofList

theorem toList_camel (name : String) : (camel name).toList = camelChars name.toList :=
  String.toList_ofList

/-- Two names are the same in snake case exactly where they are the same in camel case. -/
theorem snake_eq_snake_iff : snake left = snake right ↔ camel left = camel right := by
  simp only [← String.toList_inj, toList_snake, toList_camel]
  constructor
  · intro h
    rw [← camelChars_snakeChars, h, camelChars_snakeChars]
  · intro h
    rw [← snakeChars_camelChars, h, snakeChars_camelChars]

theorem camel_eq_self (h : '_' ∉ name.toList) : camel name = name := by
  rw [← String.toList_inj, toList_camel, camelChars_eq_self h]

/-- A name without an underscore is read back from snake case. -/
theorem camel_snake (h : '_' ∉ name.toList) : camel (snake name) = name := by
  rw [← String.toList_inj, toList_camel, toList_snake, camelChars_snakeChars, camelChars_eq_self h]

theorem snake_snake (name : String) : snake (snake name) = snake name := by
  rw [← String.toList_inj, toList_snake, toList_snake, snakeChars_eq_self_iff]
  exact fun c hc => isUpper_of_mem_snakeChars hc

/-- Names without an underscore have a column each. -/
theorem column_inj {mapCamelCase : Bool} (hleft : '_' ∉ left.toList) (hright : '_' ∉ right.toList)
    (h : column mapCamelCase left = column mapCamelCase right) : left = right := by
  cases mapCamelCase with
  | false => exact h
  | true =>
    have hcamel := snake_eq_snake_iff.1 h
    rwa [camel_eq_self hleft, camel_eq_self hright] at hcamel

/-- A name with an underscore may share its column with another one. -/
example : column true "userName" = column true "user_name" := by decide

end CriteriaSql.Naming
