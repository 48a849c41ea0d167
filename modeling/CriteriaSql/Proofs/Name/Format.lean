/-
  Formats as texts around slots. A format is read from left to right, so a slot is where the first
  one begins that is left, and the texts between the slots have none. They come from the format
  alone: whatever the names are, they stand between these texts as they are (`fill_of_around`). A
  format has `n` slots exactly where it is `n + 1` such texts with a slot between any two
  (`slots_eq_iff`).
-/
import CriteriaSql.Naming
import Mathlib

namespace CriteriaSql.Naming

/-! ## Characters -/

section Chars

variable {c : Char} {cs gap rest : List Char}

/-- The characters of a slot. -/
def slotChars : List Char := ['\x7b', '\x7d']

/-- Where no slot begins, a character is copied. -/
theorem fillChars_cons (h : ¬slotChars <+: c :: cs) (args : List (List Char)) :
    fillChars (c :: cs) args = c :: fillChars cs args := by
  cases cs with
  | nil => rfl
  | cons d rest =>
    refine if_neg ?_
    rintro ⟨rfl, rfl⟩
    exact h ⟨rest, rfl⟩

theorem slotsChars_cons (h : ¬slotChars <+: c :: cs) : slotsChars (c :: cs) = slotsChars cs := by
  cases cs with
  | nil => rfl
  | cons d rest =>
    rw [slotsChars, if_neg]
    rintro ⟨rfl, rfl⟩
    exact h ⟨rest, rfl⟩

/-- A slot does not begin in a text without one, also where a slot follows. -/
theorem not_prefix_slot (h : ¬slotChars <:+: c :: gap) (rest : List Char) :
    ¬slotChars <+: c :: (gap ++ (slotChars ++ rest)) := by
  rintro ⟨behind, hslot⟩
  obtain ⟨rfl, hnext⟩ := List.cons.inj hslot
  cases gap with
  | nil => cases hnext
  | cons d gap =>
    obtain ⟨rfl, -⟩ := List.cons.inj hnext
    exact h ⟨[], gap, rfl⟩

theorem not_infix_tail (h : ¬slotChars <:+: c :: gap) : ¬slotChars <:+: gap :=
  fun hgap => h (List.infix_cons hgap)

theorem fillChars_eq_self (h : ¬slotChars <:+: cs) (args : List (List Char)) :
    fillChars cs args = cs := by
  induction cs with
  | nil => rfl
  | cons c cs ih =>
    rw [fillChars_cons fun hslot => h hslot.isInfix, ih (not_infix_tail h)]

/-- The first name stands in the place of the first slot. -/
theorem fillChars_slot (h : ¬slotChars <:+: gap) (rest arg : List Char)
    (args : List (List Char)) :
    fillChars (gap ++ (slotChars ++ rest)) (arg :: args) = gap ++ (arg ++ fillChars rest args) := by
  induction gap with
  | nil => rfl
  | cons c gap ih =>
    rw [List.cons_append, fillChars_cons (not_prefix_slot h rest), ih (not_infix_tail h),
      List.cons_append]

theorem slotsChars_eq_zero (h : ¬slotChars <:+: cs) : slotsChars cs = 0 := by
  induction cs with
  | nil => rfl
  | cons c cs ih => rw [slotsChars_cons fun hslot => h hslot.isInfix, ih (not_infix_tail h)]

theorem slotsChars_slot (h : ¬slotChars <:+: gap) (rest : List Char) :
    slotsChars (gap ++ (slotChars ++ rest)) = slotsChars rest + 1 := by
  induction gap with
  | nil => rfl
  | cons c gap ih =>
    rw [List.cons_append, slotsChars_cons (not_prefix_slot h rest), ih (not_infix_tail h)]

/-- What has a slot has a first one. -/
theorem exists_first_slot (h : slotChars <:+: cs) :
    ∃ gap rest, ¬slotChars <:+: gap ∧ cs = gap ++ (slotChars ++ rest) := by
  induction cs with
  | nil => cases List.infix_nil.1 h
  | cons c cs ih =>
    rcases List.infix_cons_iff.1 h with ⟨rest, hslot⟩ | htail
    · exact ⟨[], rest, by decide, hslot.symm⟩
    · by_cases hhere : slotChars <+: c :: cs
      · obtain ⟨rest, hslot⟩ := hhere
        exact ⟨[], rest, by decide, hslot.symm⟩
      · obtain ⟨gap, rest, hgap, rfl⟩ := ih htail
        refine ⟨c :: gap, rest, fun hinfix => ?_, rfl⟩
        rcases List.infix_cons_iff.1 hinfix with hbegin | hinside
        · exact hhere (hbegin.trans ⟨slotChars ++ rest, rfl⟩)
        · exact hgap hinside

end Chars

/-! ## Texts -/

variable {format text rest name : String} {texts names : List String} {n : Nat}

/-- A text without a slot. -/
def NoSlot (text : String) : Prop := ¬slotChars <:+: text.toList

/-- The slot of a format. -/
def slot : String := "\x7b\x7d"

theorem fill_eq_self (h : NoSlot text) (names : List String) : fill text names = text := by
  rw [← String.toList_inj, fill, String.toList_ofList, fillChars_eq_self h]

theorem fill_slot (h : NoSlot text) (rest name : String) (names : List String) :
    fill (text ++ slot ++ rest) (name :: names) = text ++ name ++ fill rest names := by
  rw [← String.toList_inj]
  simp only [fill, String.toList_ofList, String.toList_append, List.append_assoc, List.map_cons]
  exact fillChars_slot h rest.toList name.toList _

theorem slots_eq_zero (h : NoSlot text) : slots text = 0 := slotsChars_eq_zero h

theorem slots_slot (h : NoSlot text) (rest : String) :
    slots (text ++ slot ++ rest) = slots rest + 1 := by
  simp only [slots, String.toList_append, List.append_assoc]
  exact slotsChars_slot h rest.toList

/-- A format is a text without a slot, or such a text, a slot and a further format. -/
theorem noSlot_or_exists (format : String) :
    NoSlot format ∨ ∃ text rest, NoSlot text ∧ format = text ++ slot ++ rest := by
  by_cases h : slotChars <:+: format.toList
  · obtain ⟨gap, rest, hgap, hformat⟩ := exists_first_slot h
    refine Or.inr ⟨String.ofList gap, String.ofList rest, ?_, ?_⟩
    · rwa [NoSlot, String.toList_ofList]
    · rw [← String.toList_inj, hformat]
      simp only [String.toList_append, String.toList_ofList, List.append_assoc]
      rfl
  · exact Or.inl h

/-- The format is these texts with a slot between any two, and none of them has a slot itself. -/
inductive Around : String → List String → Prop
  | last {text : String} (h : NoSlot text) : Around text [text]
  | slot {text rest : String} {texts : List String} (h : NoSlot text) (hrest : Around rest texts) :
      Around (text ++ slot ++ rest) (text :: texts)

/-- Names between texts: one behind each text but the last. -/
def weave : List String → List String → String
  | text :: texts, name :: names => text ++ name ++ weave texts names
  | texts, _ => String.join texts

/-- A format with a slot for each name is filled by putting the names between its texts. -/
theorem fill_of_around (h : Around format texts) (hnames : names.length + 1 = texts.length) :
    fill format names = weave texts names := by
  induction h generalizing names with
  | @last text h =>
    have hnone : names = [] := List.length_eq_zero_iff.1 (by simpa using hnames)
    rw [hnone, fill_eq_self h]
    simp [weave, String.join]
  | @slot text rest texts h hrest ih =>
    cases names with
    | nil =>
      cases hrest <;> simp at hnames
    | cons name names =>
      rw [fill_slot h, ih (by simpa using hnames)]
      rfl

theorem length_of_around (h : Around format texts) : texts.length = slots format + 1 := by
  induction h with
  | last h => rw [slots_eq_zero h, List.length_singleton]
  | slot h hrest ih => rw [slots_slot h, List.length_cons, ih]

/-- Every format is of texts around its slots. -/
theorem exists_around (format : String) : ∃ texts, Around format texts := by
  induction hn : slots format generalizing format with
  | zero =>
    rcases noSlot_or_exists format with hformat | ⟨text, rest, htext, rfl⟩
    · exact ⟨[format], .last hformat⟩
    · rw [slots_slot htext] at hn
      cases hn
  | succ n ih =>
    rcases noSlot_or_exists format with hformat | ⟨text, rest, htext, rfl⟩
    · rw [slots_eq_zero hformat] at hn
      cases hn
    · rw [slots_slot htext, Nat.succ.injEq] at hn
      obtain ⟨texts, htexts⟩ := ih rest hn
      exact ⟨text :: texts, .slot htext htexts⟩

/-- A format has so many slots if and only if it is of one more texts. -/
theorem slots_eq_iff : slots format = n ↔ ∃ texts, texts.length = n + 1 ∧ Around format texts := by
  constructor
  · rintro rfl
    obtain ⟨texts, htexts⟩ := exists_around format
    exact ⟨texts, length_of_around htexts, htexts⟩
  · rintro ⟨texts, hlength, htexts⟩
    rw [length_of_around htexts] at hlength
    omega

/-- A format with one slot puts a name between two texts. -/
theorem slots_eq_one_iff :
    slots format = 1 ↔ ∃ before behind, Around format [before, behind] ∧
      ∀ name, fill format [name] = before ++ name ++ behind := by
  rw [slots_eq_iff]
  constructor
  · rintro ⟨texts, hlength, htexts⟩
    obtain ⟨before, behind, rfl⟩ := List.length_eq_two.1 hlength
    refine ⟨before, behind, htexts, fun name => ?_⟩
    have hfill : fill format [name] = weave [before, behind] [name] := fill_of_around htexts rfl
    rw [hfill]
    simp [weave, String.join]
  · rintro ⟨before, behind, htexts, -⟩
    exact ⟨[before, behind], rfl, htexts⟩

/-- A format with two slots puts two names between three texts, in their order. -/
theorem slots_eq_two_iff :
    slots format = 2 ↔ ∃ before between behind, Around format [before, between, behind] ∧
      ∀ left right, fill format [left, right] = before ++ left ++ between ++ right ++ behind := by
  rw [slots_eq_iff]
  constructor
  · rintro ⟨texts, hlength, htexts⟩
    obtain ⟨before, between, behind, rfl⟩ := List.length_eq_three.1 hlength
    refine ⟨before, between, behind, htexts, fun left right => ?_⟩
    have hfill : fill format [left, right] = weave [before, between, behind] [left, right] :=
      fill_of_around htexts rfl
    rw [hfill]
    simp [weave, String.join, String.append_assoc]
  · rintro ⟨before, between, behind, htexts, -⟩
    exact ⟨[before, between, behind], rfl, htexts⟩

end CriteriaSql.Naming
