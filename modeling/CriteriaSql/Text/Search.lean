/-
  Searching in characters: parts, endings and counts. A part is found anywhere; the empty part is
  in every text.
-/

namespace CriteriaSql.Text

/-! ## Parts -/

/-- Whether `part` stands somewhere in the characters. -/
def hasPart (part : List Char) : List Char → Bool
  | [] => part.isEmpty
  | c :: cs => part.isPrefixOf (c :: cs) || hasPart part cs

/-- Whether the text `part` stands somewhere in `s`. -/
def contains (s part : String) : Bool := hasPart part.toList s.toList

theorem hasPart_iff {part cs : List Char} :
    hasPart part cs = true ↔ ∃ before after, cs = before ++ part ++ after := by
  induction cs with
  | nil =>
    constructor
    · intro h
      exact ⟨[], [], by simpa [hasPart] using h⟩
    · rintro ⟨before, after, h⟩
      simp only [List.append_assoc, List.nil_eq, List.append_eq_nil_iff] at h
      simp [hasPart, h.2.1]
  | cons c cs ih =>
    rw [hasPart, Bool.or_eq_true, ih, List.isPrefixOf_iff_prefix]
    constructor
    · rintro (⟨after, h⟩ | ⟨before, after, h⟩)
      · exact ⟨[], after, by simpa using h.symm⟩
      · exact ⟨c :: before, after, by simp [h]⟩
    · rintro ⟨before, after, h⟩
      cases before with
      | nil => exact Or.inl ⟨after, by simpa using h.symm⟩
      | cons b before =>
        simp only [List.cons_append, List.cons.injEq] at h
        exact Or.inr ⟨before, after, h.2⟩

/-! ## Endings -/

/-- The characters before `ending`, where they end in it. -/
def dropEnding? (ending cs : List Char) : Option (List Char) :=
  if ending.isSuffixOf cs then some (cs.take (cs.length - ending.length)) else none

theorem dropEnding?_eq_some_iff {ending cs base : List Char} :
    dropEnding? ending cs = some base ↔ cs = base ++ ending := by
  rw [dropEnding?]
  split
  next h =>
    rw [List.isSuffixOf_iff_suffix] at h
    obtain ⟨start, rfl⟩ := h
    simp [eq_comm]
  next h =>
    constructor
    · intro hn; simp at hn
    · rintro rfl
      simp [List.isSuffixOf_iff_suffix] at h

/-! ## Counts -/

/-- How often a character stands in the text. -/
def countChar (c : Char) (s : String) : Nat := s.toList.count c

theorem countChar_append (c : Char) (s t : String) :
    countChar c (s ++ t) = countChar c s + countChar c t := by
  simp [countChar, String.toList_append, List.count_append]

end CriteriaSql.Text
