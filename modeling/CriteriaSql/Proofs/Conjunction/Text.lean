/-
  Texts that may stand between two ANDs. A condition keeps its meaning next to an AND if its
  parentheses are in pairs and no OR stands outside of them (`Conjunct`). Only the characters
  outside of all parentheses count for that (`outside`), so whatever is in pairs may be put into
  parentheses, and texts with a blank between them do not change each other's words. A text may
  be read part by part (`AndReading.byParts`), cut at the ANDs outside of all parentheses.
-/
import CriteriaSql.Text.Word

namespace CriteriaSql.Text

/-! ## Parentheses -/

/-- The number of open parentheses behind a character. -/
def nesting (depth : Nat) (c : Char) : Nat :=
  if c = '(' then depth + 1 else if c = ')' then depth - 1 else depth

/-- The characters outside of all parentheses, with the parentheses that open a group there. -/
def outside (depth : Nat) : List Char → List Char
  | [] => []
  | c :: cs =>
    if depth = 0 then c :: outside (nesting depth c) cs else outside (nesting depth c) cs

/-- Every parenthesis that is opened is closed, and none is closed outside of all parentheses. -/
def Paired (s : String) : Prop := s.toList.foldl nesting 0 = 0 ∧ ')' ∉ outside 0 s.toList

instance : DecidablePred Paired := fun s =>
  inferInstanceAs (Decidable (s.toList.foldl nesting 0 = 0 ∧ ')' ∉ outside 0 s.toList))

/-- A text without parentheses. -/
def Flat (s : String) : Prop := '(' ∉ s.toList ∧ ')' ∉ s.toList

instance : DecidablePred Flat := fun s =>
  inferInstanceAs (Decidable ('(' ∉ s.toList ∧ ')' ∉ s.toList))

theorem outside_append (depth : Nat) (cs ds : List Char) :
    outside depth (cs ++ ds) = outside depth cs ++ outside (cs.foldl nesting depth) ds := by
  induction cs generalizing depth with
  | nil => rfl
  | cons c cs ih =>
    rw [List.cons_append, outside, outside, ih, List.foldl_cons]
    split <;> rfl

/-- What closes no more than it opens stays inside of the parentheses around it. -/
theorem inside_of_opened {depth : Nat} {cs : List Char} (h : ')' ∉ outside depth cs)
    (around : Nat) :
    cs.foldl nesting (depth + around) = cs.foldl nesting depth + around ∧
      outside (depth + around + 1) cs = [] := by
  induction cs generalizing depth with
  | nil => exact ⟨rfl, rfl⟩
  | cons c cs ih =>
    have hrest : ')' ∉ outside (nesting depth c) cs := by
      rw [outside] at h
      split at h
      · exact fun hm => h (List.mem_cons_of_mem _ hm)
      · exact h
    -- a parenthesis is closed at a depth of at least one
    have hstep (more : Nat) : nesting (depth + more) c = nesting depth c + more := by
      by_cases hclose : c = ')'
      · subst hclose
        have hdepth : depth ≠ 0 := by
          rintro rfl
          exact h List.mem_cons_self
        simp only [nesting, Char.reduceEq, if_false, if_true]
        omega
      · unfold nesting
        split <;> omega
    obtain ⟨hfold, hinside⟩ := ih hrest
    refine ⟨?_, ?_⟩
    · rw [List.foldl_cons, List.foldl_cons, hstep, hfold]
    · rw [outside, if_neg (Nat.succ_ne_zero _), Nat.add_assoc, hstep, ← Nat.add_assoc, hinside]

namespace Paired

variable {s t : String}

theorem foldl_nesting (h : Paired s) (depth : Nat) : s.toList.foldl nesting depth = depth := by
  have := (inside_of_opened h.2 depth).1
  rwa [h.1, Nat.zero_add] at this

theorem outside_succ (h : Paired s) (depth : Nat) : outside (depth + 1) s.toList = [] := by
  have := (inside_of_opened h.2 depth).2
  rwa [Nat.zero_add] at this

theorem outside_append (h : Paired s) (t : String) :
    outside 0 (s ++ t).toList = outside 0 s.toList ++ outside 0 t.toList := by
  rw [String.toList_append, Text.outside_append, h.foldl_nesting]

theorem append_iff (h : Paired s) : Paired (s ++ t) ↔ Paired t := by
  unfold Paired
  rw [h.outside_append, String.toList_append, List.foldl_append, h.foldl_nesting, List.mem_append,
    or_iff_right h.2]

theorem append (hs : Paired s) (ht : Paired t) : Paired (s ++ t) := hs.append_iff.2 ht

/-- A text without parentheses is outside of all of them. -/
theorem of_flat (h : Flat s) : Paired s ∧ outside 0 s.toList = s.toList := by
  have key : ∀ cs : List Char, '(' ∉ cs → ')' ∉ cs →
      cs.foldl nesting 0 = 0 ∧ outside 0 cs = cs := by
    intro cs hopen hclose
    induction cs with
    | nil => exact ⟨rfl, rfl⟩
    | cons c cs ih =>
      rw [List.mem_cons, not_or] at hopen hclose
      obtain ⟨hfold, houtside⟩ := ih hopen.2 hclose.2
      have hstep : nesting 0 c = 0 := by
        rw [nesting, if_neg (Ne.symm hopen.1), if_neg (Ne.symm hclose.1)]
      rw [List.foldl_cons, outside, if_pos rfl, hstep]
      exact ⟨hfold, by rw [houtside]⟩
  obtain ⟨hfold, houtside⟩ := key s.toList h.1 h.2
  exact ⟨⟨hfold, houtside.symm ▸ h.2⟩, houtside⟩

/-- Of a text in parentheses only the first of them is outside. -/
theorem outside_group (h : Paired s) : outside 0 ("(" ++ s ++ ")").toList = ['('] := by
  have hopen : "(".toList = ['('] := rfl
  rw [String.toList_append, String.toList_append, hopen, Text.outside_append, Text.outside_append]
  have hinside : outside (['('].foldl nesting 0) s.toList = [] := h.outside_succ 0
  have hfold : (['('] ++ s.toList).foldl nesting 0 = 1 := by
    rw [List.foldl_append]
    exact h.foldl_nesting 1
  rw [hinside, hfold]
  rfl

theorem group (h : Paired s) : Paired ("(" ++ s ++ ")") := by
  refine ⟨?_, by rw [h.outside_group]; decide⟩
  rw [String.toList_append, String.toList_append, List.foldl_append, List.foldl_append]
  have hfold : s.toList.foldl nesting ("(".toList.foldl nesting 0) = 1 := h.foldl_nesting 1
  rw [hfold]
  rfl

theorem in_group (hs : Paired s) (ht : Paired t) : Paired (s ++ " IN (" ++ t ++ ")") := by
  have hin : s ++ " IN (" ++ t ++ ")" = s ++ " IN " ++ ("(" ++ t ++ ")") := by
    rw [← String.toList_inj]
    simp
  rw [hin]
  exact (hs.append (by decide)).append ht.group

end Paired

/-! ## The word OR -/

/-- The words of a text; two characters that belong to no word have an empty one between them. -/
def words (cs : List Char) : List (List Char) := cs.splitOnP fun c => !isWord c

/-- The text holds the word OR, in capitals or not. -/
def HasOr (cs : List Char) : Prop := ['O', 'R'] ∈ (words cs).map (List.map Char.toUpper)

instance : DecidablePred HasOr := fun cs =>
  inferInstanceAs (Decidable (['O', 'R'] ∈ (words cs).map (List.map Char.toUpper)))

/-- A character that belongs to no word separates the words around it. -/
theorem hasOr_append_cons {separator : Char} (h : isWord separator = false)
    (cs ds : List Char) : HasOr (cs ++ separator :: ds) ↔ HasOr cs ∨ HasOr ds := by
  have hseparates : (!isWord separator) = true := by rw [h]; rfl
  unfold HasOr words
  rw [List.splitOnP_append_cons cs ds hseparates, List.map_append, List.mem_append]

/-! ## Conjuncts -/

/-- A text that may stand between two ANDs: its parentheses are in pairs, and no OR stands outside
    of them. -/
def Conjunct (s : String) : Prop := Paired s ∧ ¬ HasOr (outside 0 s.toList)

instance : DecidablePred Conjunct := fun s =>
  inferInstanceAs (Decidable (Paired s ∧ ¬ HasOr (outside 0 s.toList)))

/-- A text with neither parentheses nor an OR. -/
def Bare (s : String) : Prop := Flat s ∧ ¬ HasOr s.toList

instance : DecidablePred Bare := fun s => inferInstanceAs (Decidable (Flat s ∧ ¬ HasOr s.toList))

theorem Flat.paired {s : String} (h : Flat s) : Paired s := (Paired.of_flat h).1

theorem Bare.paired {s : String} (h : Bare s) : Paired s := h.1.paired

theorem Bare.conjunct {s : String} (h : Bare s) : Conjunct s := by
  obtain ⟨hpaired, houtside⟩ := Paired.of_flat h.1
  exact ⟨hpaired, houtside.symm ▸ h.2⟩

/-- A group in parentheses may hold whatever it likes. -/
theorem Paired.conjunct_group {s : String} (h : Paired s) : Conjunct ("(" ++ s ++ ")") := by
  refine ⟨h.group, ?_⟩
  rw [h.outside_group]
  decide

theorem Conjunct.blank_append {t : String} (ht : Conjunct t) : Conjunct (" " ++ t) := by
  have hblank : Paired " " := by decide
  refine ⟨hblank.append ht.1, ?_⟩
  rw [hblank.outside_append]
  exact fun h => ht.2 (((hasOr_append_cons (by decide) [] _).1 h).resolve_left (by decide))

/-- A conjunct that begins with a blank may follow another one. -/
theorem Conjunct.append {s t : String} (hs : Conjunct s) (ht : Conjunct t)
    (hblank : t.toList.head? = some ' ') : Conjunct (s ++ t) := by
  refine ⟨hs.1.append ht.1, ?_⟩
  have hor := ht.2
  obtain ⟨rest, hrest⟩ := List.head?_eq_some_iff.1 hblank
  have houtside : outside 0 t.toList = ' ' :: outside 0 rest := by
    rw [hrest]
    rfl
  rw [houtside] at hor
  rw [hs.1.outside_append, houtside, hasOr_append_cons (by decide), not_or]
  exact ⟨hs.2, fun h => hor ((hasOr_append_cons (by decide) [] _).2 (Or.inr h))⟩

theorem Conjunct.and {s t : String} (hs : Conjunct s) (ht : Conjunct t) :
    Conjunct (s ++ " AND " ++ t) := by
  have htail : Conjunct (" AND" ++ (" " ++ t)) :=
    (by decide : Conjunct " AND").append ht.blank_append (by simp)
  have hand : s ++ " AND " ++ t = s ++ (" AND" ++ (" " ++ t)) := by
    rw [← String.toList_inj]
    simp
  rw [hand]
  exact hs.append htail (by simp)

/-- What is in the parentheses behind a column may hold whatever it likes. -/
theorem Conjunct.in_group {s t : String} (hs : Conjunct s) (ht : Paired t) :
    Conjunct (s ++ " IN (" ++ t ++ ")") := by
  have htail : Conjunct (" IN" ++ (" " ++ ("(" ++ t ++ ")"))) :=
    (by decide : Conjunct " IN").append ht.conjunct_group.blank_append (by simp)
  have hin : s ++ " IN (" ++ t ++ ")" = s ++ (" IN" ++ (" " ++ ("(" ++ t ++ ")"))) := by
    rw [← String.toList_inj]
    simp
  rw [hin]
  exact hs.append htail (by simp)

/-! ## The parts of a text -/

/-- The characters with the number of parentheses that are open before each of them. -/
def marked (depth : Nat) : List Char → List (Nat × Char)
  | [] => []
  | c :: cs => (depth, c) :: marked (nesting depth c) cs

/-- The stretches of a text between the blanks outside of all parentheses. -/
def stretches (s : String) : List String :=
  ((marked 0 s.toList).splitOn (0, ' ')).map fun cs => String.ofList (cs.map Prod.snd)

/-- The parts of a text between the ANDs outside of all parentheses. -/
def parts (s : String) : List String :=
  ((stretches s).splitOn "AND").map (" ".intercalate ·)

theorem marked_append (depth : Nat) (cs ds : List Char) :
    marked depth (cs ++ ds) = marked depth cs ++ marked (cs.foldl nesting depth) ds := by
  induction cs generalizing depth with
  | nil => rfl
  | cons c cs ih => rw [List.cons_append, marked, marked, ih, List.foldl_cons, List.cons_append]

namespace Paired

variable {s : String}

theorem stretches_append (h : Paired s) (t : String) :
    stretches (s ++ " " ++ t) = stretches s ++ stretches t := by
  have hmarked : marked 0 (s ++ " " ++ t).toList =
      marked 0 s.toList ++ (0, ' ') :: marked 0 t.toList := by
    have hblank : " ".toList = [' '] := rfl
    rw [String.toList_append, String.toList_append, hblank, List.append_assoc, marked_append, h.1]
    rfl
  unfold stretches
  rw [hmarked, List.splitOn_append_cons_self, List.map_append]

/-- An AND behind a text with its parentheses in pairs is outside of all parentheses. -/
theorem parts_and (h : Paired s) (t : String) : parts (s ++ " AND " ++ t) = parts s ++ parts t := by
  have hstretches : stretches (s ++ " AND " ++ t) = stretches s ++ "AND" :: stretches t := by
    have hand : s ++ " AND " ++ t = s ++ " " ++ ("AND" ++ " " ++ t) := by
      rw [← String.toList_inj]
      simp
    have hword : stretches "AND" = ["AND"] := by decide
    rw [hand, h.stretches_append, (by decide : Paired "AND").stretches_append, hword]
    rfl
  unfold parts
  rw [hstretches, List.splitOn_append_cons_self, List.map_append]

end Paired

/-! ## Readings -/

/-- A way to read texts as conditions. Of the many things that it has to get right only one counts
    here: an AND between two conditions that are conjuncts is the last word to be applied. -/
structure AndReading where
  /-- The texts that are conditions. -/
  reads : String → Prop
  /-- The conditions that hold. -/
  holds : String → Prop
  reads_and {s t : String} (hs : Conjunct s) (ht : Conjunct t) (reads_s : reads s)
    (reads_t : reads t) : reads (s ++ " AND " ++ t)
  holds_and {s t : String} (hs : Conjunct s) (ht : Conjunct t) (reads_s : reads s)
    (reads_t : reads t) : holds (s ++ " AND " ++ t) ↔ holds s ∧ holds t

/-- Conjuncts are read part by part, whatever makes a part true. -/
def AndReading.byParts (truth : String → Prop) : AndReading where
  reads := Conjunct
  holds s := ∀ part ∈ parts s, truth part
  reads_and hs ht _ _ := hs.and ht
  holds_and hs _ _ _ := by rw [hs.1.parts_and, List.forall_mem_append]

theorem AndReading.holds_byParts {truth : String → Prop} {s : String} (h : parts s = [s]) :
    (byParts truth).holds s ↔ truth s := by
  have hparts : (byParts truth).holds s ↔ ∀ part ∈ parts s, truth part := Iff.rfl
  rw [hparts, h, List.forall_mem_singleton]

end CriteriaSql.Text
