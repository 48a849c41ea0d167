/-
  The alternatives that a name offers. A name is cut before `Or` with an ASCII capital behind it,
  but not at the start of a part; so a part has no such place after its first character, and no part
  but the last may end in `Or` there, as the `Or` behind it would be one letter too late. These
  conditions are all that is asked of a list of parts: the alternatives of a name are the only such
  list that is joined to it again (`alternatives_joined`).
-/
import CriteriaSql.FieldName
import CriteriaSql.Text.Word
import Mathlib

namespace CriteriaSql.FieldName

/-! ## Dividers -/

/-- The characters start with `Or` and an ASCII capital. -/
def StartsDivider (cs : List Char) : Prop := ∃ c, c.isUpper = true ∧ ['O', 'r', c] <+: cs

/-- `Or` and an ASCII capital stand somewhere in the characters. -/
def HasDivider (cs : List Char) : Prop := ∃ c, c.isUpper = true ∧ ['O', 'r', c] <:+: cs

/-- What follows the first character of a part, and the parts after it: no divider starts before the
    end of a part, and every later part starts with a capital. -/
inductive Cut : List Char → List (List Char) → Prop
  | last {tail : List Char} (h : ¬HasDivider tail) : Cut tail []
  | next {tail cs : List Char} {c : Char} {later : List (List Char)}
      (h : ¬HasDivider (tail ++ ['O'])) (hc : c.isUpper = true) (hrest : Cut cs later) :
      Cut tail ((c :: cs) :: later)

/-- The characters that are cut: each later part has `Or` before it. -/
def glued (tail : List Char) (later : List (List Char)) : List Char :=
  tail ++ later.flatMap fun part => 'O' :: 'r' :: part

variable {c : Char} {cs tail : List Char} {later : List (List Char)}

theorem StartsDivider.mono {ds : List Char} (h : StartsDivider cs) (hds : cs <+: ds) :
    StartsDivider ds := by
  obtain ⟨c, hc, hcs⟩ := h
  exact ⟨c, hc, hcs.trans hds⟩

/-- A divider that starts before the first letter of another one ends with that letter at the
    latest. -/
theorem StartsDivider.of_append {rest : List Char}
    (h : StartsDivider (c :: (tail ++ 'O' :: rest))) : StartsDivider (c :: (tail ++ ['O'])) := by
  obtain ⟨d, hd, after, hafter⟩ := h
  match tail with
  | [] => simp at hafter
  | [e] =>
    simp only [List.cons_append, List.nil_append, List.cons.injEq] at hafter
    obtain ⟨rfl, rfl, rfl, -⟩ := hafter
    exact ⟨'O', hd, [], rfl⟩
  | e :: f :: tail =>
    simp only [List.cons_append, List.nil_append, List.cons.injEq] at hafter
    obtain ⟨rfl, rfl, rfl, -⟩ := hafter
    exact ⟨_, hd, tail ++ ['O'], rfl⟩

theorem not_hasDivider_nil : ¬HasDivider [] := by
  rintro ⟨c, -, h⟩
  exact absurd (List.infix_nil.1 h) (List.cons_ne_nil _ _)

theorem hasDivider_cons : HasDivider (c :: cs) ↔ StartsDivider (c :: cs) ∨ HasDivider cs := by
  unfold HasDivider StartsDivider
  simp only [List.infix_cons_iff, and_or_left, exists_or]

/-- With the first letter of a divider behind it, text has a divider of its own or ends in `Or`. -/
theorem hasDivider_concat : HasDivider (cs ++ ['O']) ↔ HasDivider cs ∨ ['O', 'r'] <:+ cs := by
  unfold HasDivider
  simp only [List.infix_concat_iff]
  constructor
  · rintro ⟨c, hc, hends | hinfix⟩
    · rcases List.suffix_concat_iff.1 hends with hnil | ⟨start, hstart, hcs⟩
      · cases hnil
      · have hsplit : ['O', 'r'] ++ [c] = start ++ ['O'] := hstart
        rw [(List.append_inj' hsplit rfl).1]
        exact Or.inr hcs
    · exact Or.inl ⟨c, hc, hinfix⟩
  · rintro (⟨c, hc, hinfix⟩ | hends)
    · exact ⟨c, hc, Or.inr hinfix⟩
    · exact ⟨'O', by decide, Or.inl (List.suffix_concat_iff.2 (Or.inr ⟨_, rfl, hends⟩))⟩

/-! ## Cutting -/

theorem tailParts_divider (h : c.isUpper = true) :
    tailParts ('O' :: 'r' :: c :: cs) = ([], (c :: (tailParts cs).1) :: (tailParts cs).2) := by
  rw [tailParts, if_pos ⟨rfl, rfl, h⟩]
  rfl

theorem tailParts_cons (h : ¬StartsDivider (c :: cs)) :
    tailParts (c :: cs) = (c :: (tailParts cs).1, (tailParts cs).2) := by
  match cs with
  | [] => rfl
  | [_] => rfl
  | d :: e :: rest =>
    rw [tailParts, if_neg]
    · rfl
    · rintro ⟨rfl, rfl, he⟩
      exact h ⟨e, he, rest, rfl⟩

theorem glued_cons (tail part : List Char) (later : List (List Char)) :
    glued tail (part :: later) = tail ++ 'O' :: 'r' :: glued part later := by
  simp [glued]

theorem glued_tailParts (cs : List Char) : glued (tailParts cs).1 (tailParts cs).2 = cs :=
  tailParts_join cs

/-- A character before the first part keeps the cuts if no divider starts with it. -/
theorem Cut.cons (h : Cut tail later) (hc : ¬StartsDivider (c :: glued tail later)) :
    Cut (c :: tail) later := by
  cases h with
  | last h =>
    refine .last fun hdivider => ?_
    rcases hasDivider_cons.1 hdivider with hstart | htail
    · exact hc (hstart.mono (by simp [glued]))
    · exact h htail
  | @next _ ds d later h hd hrest =>
    refine .next (fun hdivider => ?_) hd hrest
    rcases hasDivider_cons.1 hdivider with hstart | htail
    · refine hc (hstart.mono ⟨'r' :: glued (d :: ds) later, ?_⟩)
      simp [glued_cons]
    · exact h htail

/-- The characters are cut at every divider that does not start a part. -/
theorem cut_tailParts (cs : List Char) : Cut (tailParts cs).1 (tailParts cs).2 := by
  have hshort (c : Char) (cs : List Char) (h : cs.length < 2) : ¬StartsDivider (c :: cs) := by
    rintro ⟨d, -, rest, hrest⟩
    have hlength := congrArg List.length hrest
    simp only [List.length_append, List.length_cons] at hlength
    omega
  fun_induction tailParts cs with
  | case1 => exact .last not_hasDivider_nil
  | case2 c => exact (Cut.last not_hasDivider_nil).cons (hshort c [] (by decide))
  | case3 c d =>
    exact ((Cut.last not_hasDivider_nil).cons (hshort d [] (by decide))).cons
      (hshort c [d] Nat.one_lt_two)
  | case4 c d e rest h next ih =>
    obtain ⟨rfl, rfl, he⟩ := h
    refine .next (fun hdivider => ?_) he ih
    rcases hasDivider_cons.1 hdivider with hstart | hnil
    · exact hshort 'O' [] (by decide) hstart
    · exact not_hasDivider_nil hnil
  | case5 c d e rest h ih =>
    -- what was cut is the rest of the name again, so the first three letters decide it
    refine ih.cons ?_
    rw [glued_tailParts]
    rintro ⟨e', he', after, hafter⟩
    simp only [List.cons_append, List.nil_append, List.cons.injEq] at hafter
    obtain ⟨rfl, rfl, rfl, -⟩ := hafter
    exact h ⟨rfl, rfl, he'⟩

theorem tailParts_of_not_hasDivider (h : ¬HasDivider tail) : tailParts tail = (tail, []) := by
  induction tail with
  | nil => rfl
  | cons c tail ih =>
    rw [hasDivider_cons, not_or] at h
    rw [tailParts_cons h.1, ih h.2]

theorem tailParts_append (h : ¬HasDivider (tail ++ ['O'])) (hc : c.isUpper = true) :
    tailParts (tail ++ 'O' :: 'r' :: c :: cs) =
      (tail, (c :: (tailParts cs).1) :: (tailParts cs).2) := by
  induction tail with
  | nil => exact tailParts_divider hc
  | cons d tail ih =>
    rw [List.cons_append, hasDivider_cons, not_or] at h
    rw [List.cons_append, tailParts_cons fun hstart => h.1 hstart.of_append, ih h.2]

/-- Parts without a divider are found again. -/
theorem tailParts_glued (h : Cut tail later) : tailParts (glued tail later) = (tail, later) := by
  induction h with
  | last h =>
    rw [glued, List.flatMap_nil, List.append_nil, tailParts_of_not_hasDivider h]
  | @next tail cs c later h hc hrest ih =>
    have hglued : glued (c :: cs) later = c :: glued cs later := rfl
    rw [glued_cons, hglued, tailParts_append h hc, ih]

/-! ## Conditions -/

theorem cut_nil_iff : Cut tail [] ↔ ¬HasDivider tail := by
  constructor
  · rintro ⟨h⟩
    exact h
  · exact .last

theorem cut_cons_iff {part : List Char} :
    Cut tail (part :: later) ↔
      (¬HasDivider tail ∧ ¬['O', 'r'] <:+ tail) ∧ (∃ c ∈ part.head?, c.isUpper = true) ∧
        Cut part.tail later := by
  rw [← not_or, ← hasDivider_concat]
  constructor
  · intro h
    cases h with
    | next h hc hrest => exact ⟨h, ⟨_, rfl, hc⟩, hrest⟩
  · rintro ⟨h, ⟨c, hhead, hc⟩, hrest⟩
    cases part with
    | nil => cases hhead
    | cons d cs =>
      cases hhead
      exact .next h hc hrest

/-- The conditions on the parts one by one. -/
theorem cut_iff :
    Cut tail later ↔
      (∀ t ∈ tail :: later.map List.tail, ¬HasDivider t) ∧
      (∀ t ∈ (tail :: later.map List.tail).dropLast, ¬['O', 'r'] <:+ t) ∧
      ∀ part ∈ later, ∃ c ∈ part.head?, c.isUpper = true := by
  induction later generalizing tail with
  | nil => simp [cut_nil_iff]
  | cons part later ih =>
    rw [cut_cons_iff, ih, List.map_cons, List.dropLast_cons_cons]
    simp only [List.forall_mem_cons]
    tauto

/-! ## Names -/

/-- The characters with an ASCII letter at their start as a capital. -/
def capitalizeChars : List Char → List Char
  | [] => []
  | c :: cs => c.toUpper :: cs

/-- The name with an ASCII letter at its start as a capital. -/
def capitalize (name : String) : String := String.ofList (capitalizeChars name.toList)

/-- The parts as a name spells them: from the second on with a capital. -/
def spelled : List String → List String
  | [] => []
  | first :: rest => first :: rest.map capitalize

/-- The name that offers the parts. -/
def joined (parts : List String) : String := "Or".intercalate (spelled parts)

/-- Parts that a name can offer. -/
structure Regular (parts : List String) : Prop where
  ne_nil : parts ≠ []
  filled : "" ∉ parts
  /-- A part from the second on starts with a small ASCII letter. -/
  small : ∀ part ∈ parts.tail, ∃ c ∈ part.toList.head?, c.isLower = true
  /-- A part as it is spelled has no `Or` with a capital behind it after its first character. -/
  undivided : ∀ part ∈ spelled parts, ¬HasDivider part.toList.tail
  /-- A part that another one follows does not end in `Or` after its first character. -/
  unended : ∀ part ∈ parts.dropLast, ¬['O', 'r'] <:+ part.toList.tail

/-- What the parts hold after their first characters. -/
def tails (parts : List String) : List (List Char) := parts.map fun part => part.toList.tail

section Letters

theorem lowercase_of_isUpper (h : c.isUpper = true) : Text.lowercase c = [c.toLower] := by
  have hword : Text.isAsciiWord c = true := by
    simp [Text.isAsciiWord, Char.isAlphanum, Char.isAlpha, h]
  exact Text.lowercase_of_ascii (Text.lt_of_isAsciiWord hword)

theorem isLower_toLower (h : c.isUpper = true) : c.toLower.isLower = true := by
  rw [Char.isLower_toLower_eq_isAlpha, Char.isAlpha, h, Bool.true_or]

theorem isUpper_toUpper (h : c.isLower = true) : c.toUpper.isUpper = true := by
  rw [Char.isUpper_toUpper_eq_isAlpha, Char.isAlpha, h, Bool.or_true]

theorem uncapitalizeChars_cons (h : c.isUpper = true) :
    uncapitalizeChars (c :: cs) = c.toLower :: cs := by
  rw [uncapitalizeChars, lowercase_of_isUpper h, List.singleton_append]

theorem capitalizeChars_uncapitalizeChars (h : c.isUpper = true) :
    capitalizeChars (uncapitalizeChars (c :: cs)) = c :: cs := by
  rw [uncapitalizeChars_cons h, capitalizeChars, Char.toUpper_toLower_eq_toUpper,
    Char.toUpper_eq_of_not_isLower (Char.not_isLower_of_isUpper h)]

theorem uncapitalizeChars_capitalizeChars (h : c.isLower = true) :
    uncapitalizeChars (capitalizeChars (c :: cs)) = c :: cs := by
  rw [capitalizeChars, uncapitalizeChars_cons (isUpper_toUpper h), Char.toLower_toUpper_eq_toLower,
    Char.toLower_eq_of_not_isUpper (Char.not_isUpper_of_isLower h)]

theorem tail_capitalizeChars (cs : List Char) : (capitalizeChars cs).tail = cs.tail := by
  cases cs <;> rfl

end Letters

theorem exists_cons_of_head {p : Char → Bool} (h : ∃ c ∈ cs.head?, p c = true) :
    ∃ c rest, cs = c :: rest ∧ p c = true := by
  obtain ⟨c, hc, hp⟩ := h
  obtain ⟨rest, rfl⟩ := List.head?_eq_some_iff.1 hc
  exact ⟨c, rest, rfl, hp⟩

theorem forall_tails_iff {parts : List String} (p : List Char → Prop) :
    (∀ t ∈ tails parts, p t) ↔ ∀ part ∈ parts, p part.toList.tail := List.forall_mem_map

theorem tails_dropLast (parts : List String) : tails parts.dropLast = (tails parts).dropLast :=
  List.map_dropLast

/-- The spelling changes first letters only. -/
theorem tails_spelled (parts : List String) : tails (spelled parts) = tails parts := by
  cases parts with
  | nil => rfl
  | cons first rest =>
    rw [spelled, tails, tails, List.map_cons, List.map_cons, List.map_map]
    refine congrArg _ (List.map_congr_left fun part _ => ?_)
    simp [capitalize, tail_capitalizeChars]

theorem toList_joined {first : String} (hfirst : first.toList = c :: tail) (rest : List String) :
    (joined (first :: rest)).toList =
      c :: glued tail (rest.map fun part => capitalizeChars part.toList) := by
  have hspelled : (spelled (first :: rest)).map String.toList =
      (c :: tail) :: rest.map fun part => capitalizeChars part.toList := by
    simp [spelled, capitalize, hfirst]
  rw [joined, String.toList_intercalate, hspelled]
  exact intercalate_or _ _

theorem spelledParts_cons (c : Char) (cs : List Char) :
    spelledParts (c :: cs) = (c :: (tailParts cs).1) :: (tailParts cs).2 := rfl

theorem alternatives_of_spelledParts {name : String} {first : List Char}
    (h : spelledParts name.toList = first :: later) :
    alternatives name =
      String.ofList first :: later.map fun part => String.ofList (uncapitalizeChars part) := by
  rw [alternatives, h]

/-- The alternatives are spelled as they stand in the name. -/
theorem spelled_alternatives (name : String) :
    spelled (alternatives name) = (spelledParts name.toList).map String.ofList := by
  cases hname : name.toList with
  | nil =>
    rw [alternatives, hname]
    rfl
  | cons c cs =>
    have hcapital := (cut_iff.1 (cut_tailParts cs)).2.2
    rw [alternatives_of_spelledParts (by rw [hname, spelledParts_cons]), spelledParts_cons, spelled,
      List.map_cons, List.map_map]
    refine congrArg _ (List.map_congr_left fun part hpart => ?_)
    obtain ⟨d, rest, rfl, hd⟩ := exists_cons_of_head (hcapital part hpart)
    rw [Function.comp_apply, capitalize, String.toList_ofList,
      capitalizeChars_uncapitalizeChars hd]

theorem joined_alternatives (name : String) : joined (alternatives name) = name := by
  rw [joined, spelled_alternatives, ← String.toList_inj, String.toList_intercalate, List.map_map]
  have hid : (String.toList ∘ String.ofList) = id := funext fun cs => String.toList_ofList
  rw [hid, List.map_id]
  exact spelledParts_join name.toList

theorem regular_alternatives {name : String} (h : name ≠ "") : Regular (alternatives name) := by
  obtain ⟨c, cs, hname⟩ :=
    List.exists_cons_of_ne_nil fun hnil => h (String.toList_eq_nil_iff.1 hnil)
  obtain ⟨hdivider, hended, hcapital⟩ := cut_iff.1 (cut_tailParts cs)
  have hparts := alternatives_of_spelledParts (by rw [hname, spelledParts_cons])
  have htails : tails (alternatives name) = (tailParts cs).1 :: (tailParts cs).2.map List.tail := by
    rw [← tails_spelled, spelled_alternatives, hname, spelledParts_cons, tails, List.map_map]
    simp [Function.comp_def]
  refine ⟨?_, ?_, ?_, ?_, ?_⟩
  · rw [hparts]
    exact List.cons_ne_nil _ _
  · rw [hparts, List.mem_cons, List.mem_map, not_or]
    refine ⟨?_, ?_⟩
    · intro hempty
      simpa using congrArg String.toList hempty
    · rintro ⟨part, hpart, hempty⟩
      obtain ⟨d, rest, rfl, hd⟩ := exists_cons_of_head (hcapital part hpart)
      simp [uncapitalizeChars_cons hd] at hempty
  · rw [hparts, List.tail_cons, List.forall_mem_map]
    intro part hpart
    obtain ⟨d, rest, rfl, hd⟩ := exists_cons_of_head (hcapital part hpart)
    rw [uncapitalizeChars_cons hd, String.toList_ofList]
    exact ⟨d.toLower, rfl, isLower_toLower hd⟩
  · rw [← forall_tails_iff fun t => ¬HasDivider t, tails_spelled, htails]
    exact hdivider
  · rw [← forall_tails_iff fun t => ¬['O', 'r'] <:+ t, tails_dropLast, htails]
    exact hended

theorem alternatives_of_regular {parts : List String} (h : Regular parts) :
    alternatives (joined parts) = parts := by
  obtain ⟨first, rest, rfl⟩ := List.exists_cons_of_ne_nil h.ne_nil
  have hfilled : first.toList ≠ [] := fun hnil =>
    h.filled (List.mem_cons.2 (Or.inl (String.toList_eq_nil_iff.1 hnil).symm))
  obtain ⟨c, tail, hfirst⟩ := List.exists_cons_of_ne_nil hfilled
  have htails : tails (first :: rest) =
      tail :: (rest.map fun part => capitalizeChars part.toList).map List.tail := by
    rw [tails, List.map_cons, hfirst, List.map_map]
    simp [Function.comp_def, tail_capitalizeChars]
  have hcut : Cut tail (rest.map fun part => capitalizeChars part.toList) := by
    -- a divider may not stand in a part as it is spelled, which has the tail of the part
    rw [cut_iff, ← htails, ← tails_dropLast, forall_tails_iff fun t => ¬['O', 'r'] <:+ t,
      ← tails_spelled, forall_tails_iff fun t => ¬HasDivider t, List.forall_mem_map]
    refine ⟨h.undivided, h.unended, fun part hpart => ?_⟩
    obtain ⟨d, cs, hpart, hd⟩ := exists_cons_of_head (h.small part hpart)
    rw [hpart, capitalizeChars]
    exact ⟨d.toUpper, rfl, isUpper_toUpper hd⟩
  have hparts : spelledParts (joined (first :: rest)).toList =
      (c :: tail) :: rest.map fun part => capitalizeChars part.toList := by
    rw [toList_joined hfirst, spelledParts_cons, tailParts_glued hcut]
  rw [alternatives_of_spelledParts hparts, ← hfirst, String.ofList_toList, List.map_map]
  refine congrArg _ ((List.map_congr_left fun part hpart => ?_).trans (List.map_id rest))
  obtain ⟨d, cs, hchars, hd⟩ := exists_cons_of_head (h.small part hpart)
  rw [Function.comp_apply, hchars, uncapitalizeChars_capitalizeChars hd, ← hchars,
    String.ofList_toList]
  rfl

/-- The alternatives of a name are joined to it again, and they are regular parts; regular parts are
    the alternatives of the name that they are joined to. -/
theorem alternatives_joined :
    (∀ name, joined (alternatives name) = name ∧ (name ≠ "" → Regular (alternatives name))) ∧
      alternatives "" = [""] ∧
      ∀ parts, Regular parts → alternatives (joined parts) = parts :=
  ⟨fun name => ⟨joined_alternatives name, regular_alternatives⟩, rfl,
    fun _ => alternatives_of_regular⟩

/-- An `Or` at the start of a part does not end it, and a part that would end in `Or` ends before
    it. -/
example : alternatives "OrIdOrOrXOrYear" = ["OrId", "orX", "year"] ∧
    alternatives (joined ["aOr", "x"]) = ["a", "orX"] := by
  decide

end CriteriaSql.FieldName
