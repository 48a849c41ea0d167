/-
  What a pattern of the LIKE operator matches. `%` stands for any characters, `_` for any one
  character, and a backslash takes the next character as it is. The pattern that is made to find a
  text finds that text and no other if and only if the text holds no backslash
  (`likes_containing_iff`): the backslashes of the text itself are not escaped, so they take the
  characters after them as they are, and a wildcard behind one of them is at work.
-/
import CriteriaSql.LikePattern
import CriteriaSql.Text.Search
import Mathlib.Data.List.Induction
import Mathlib.Data.List.Infix

namespace CriteriaSql.LikePattern

/-! ## Matching -/

/-- What one place of a pattern stands for. -/
inductive Item
  /-- Any characters, or none. -/
  | anything
  /-- Any one character. -/
  | anyOne
  /-- The character itself. -/
  | only (c : Char)
  deriving DecidableEq, Repr

/-- The item of a character that is not escaped. -/
def Item.ofChar (c : Char) : Item :=
  if c = '%' then anything else if c = '_' then anyOne else only c

/-- The items of a pattern. A backslash at the very end stands for itself. -/
def items : List Char → List Item
  | [] => []
  | [c] => [.ofChar c]
  | c :: d :: cs => if c = '\\' then .only d :: items cs else .ofChar c :: items (d :: cs)

/-- Whether the items take up all of the characters, in order. -/
def covers : List Item → List Char → Bool
  | [], cs => cs.isEmpty
  | .anything :: rest, cs => cs.tails.any (covers rest)
  | .anyOne :: rest, cs =>
    match cs with
    | [] => false
    | _ :: cs => covers rest cs
  | .only c :: rest, cs =>
    match cs with
    | [] => false
    | d :: cs => d == c && covers rest cs

/-- Whether a text is like a pattern. -/
def likes (pattern text : String) : Bool := covers (items pattern.toList) text.toList

theorem items_escape (c : Char) (cs : List Char) :
    items ('\\' :: c :: cs) = .only c :: items cs := by
  rw [items, if_pos rfl]

theorem items_cons {c : Char} (h : c ≠ '\\') (cs : List Char) :
    items (c :: cs) = .ofChar c :: items cs := by
  cases cs with
  | nil => rfl
  | cons d cs => rw [items, if_neg h]

theorem covers_anything {rest : List Item} {cs : List Char} :
    covers (.anything :: rest) cs = true ↔
      ∃ before after, cs = before ++ after ∧ covers rest after = true := by
  rw [covers, List.any_eq_true]
  constructor
  · rintro ⟨after, htail, hrest⟩
    obtain ⟨before, hcs⟩ := (List.mem_tails _ _).1 htail
    exact ⟨before, after, hcs.symm, hrest⟩
  · rintro ⟨before, after, hcs, hrest⟩
    exact ⟨after, (List.mem_tails _ _).2 ⟨before, hcs.symm⟩, hrest⟩

/-- Characters that stand for themselves are where the text starts. -/
theorem covers_only {word : List Char} {rest : List Item} {cs : List Char} :
    covers (word.map .only ++ rest) cs = true ↔
      ∃ after, cs = word ++ after ∧ covers rest after = true := by
  induction word generalizing cs with
  | nil => simp
  | cons c word ih =>
    rw [List.map_cons, List.cons_append]
    cases cs with
    | nil => simp [covers]
    | cons d cs =>
      rw [covers, Bool.and_eq_true, beq_iff_eq, ih]
      constructor
      · rintro ⟨rfl, after, rfl, hrest⟩
        exact ⟨after, rfl, hrest⟩
      · rintro ⟨after, hcs, hrest⟩
        rw [List.cons_append, List.cons.injEq] at hcs
        exact ⟨hcs.1, after, hcs.2, hrest⟩

/-! ## Escaped text -/

theorem escapeChars_cons (c : Char) (cs : List Char) :
    escapeChars (c :: cs) =
      (if c = '%' ∨ c = '_' then ['\\', c] else [c]) ++ escapeChars cs :=
  List.flatMap_cons

/-- A character that is no backslash stands for itself after escaping. -/
theorem items_escapeChars_cons {c : Char} (h : c ≠ '\\') (cs rest : List Char) :
    items (escapeChars (c :: cs) ++ rest) = .only c :: items (escapeChars cs ++ rest) := by
  rw [escapeChars_cons]
  by_cases hwild : c = '%' ∨ c = '_'
  · rw [if_pos hwild]
    exact items_escape c _
  · rw [if_neg hwild, List.append_assoc, List.singleton_append, items_cons h]
    rw [not_or] at hwild
    rw [Item.ofChar, if_neg hwild.1, if_neg hwild.2]

theorem escapeChars_backslash (cs : List Char) :
    escapeChars ('\\' :: cs) = '\\' :: escapeChars cs := by
  rw [escapeChars_cons, if_neg (by decide)]
  rfl

/-- A backslash takes the one that is written before a wildcard, and the wildcard is at work. -/
theorem items_escapeChars_wildcard {c : Char} (h : c = '%' ∨ c = '_') (cs rest : List Char) :
    items (escapeChars ('\\' :: c :: cs) ++ rest) =
      .only '\\' :: .ofChar c :: items (escapeChars cs ++ rest) := by
  have hc : c ≠ '\\' := by
    rintro rfl
    exact absurd h (by decide)
  rw [escapeChars_backslash, escapeChars_cons, if_pos h]
  exact (items_escape '\\' _).trans (congrArg _ (items_cons hc _))

/-- A backslash before any other character is lost. -/
theorem items_escapeChars_lost {c : Char} (h : ¬(c = '%' ∨ c = '_')) (cs rest : List Char) :
    items (escapeChars ('\\' :: c :: cs) ++ rest) = .only c :: items (escapeChars cs ++ rest) := by
  rw [escapeChars_backslash, escapeChars_cons, if_neg h]
  exact items_escape c _

/-- Without a backslash every character of the text stands for itself. -/
theorem items_escapeChars {cs : List Char} (h : '\\' ∉ cs) (rest : List Char) :
    items (escapeChars cs ++ rest) = cs.map .only ++ items rest := by
  induction cs with
  | nil => rfl
  | cons c cs ih =>
    have hc : c ≠ '\\' := fun heq => h (heq ▸ List.mem_cons_self)
    have hcs : '\\' ∉ cs := fun hmem => h (List.mem_cons_of_mem c hmem)
    rw [items_escapeChars_cons hc, ih hcs, List.map_cons, List.cons_append]

/-- The items of the pattern for a text: anything around what the escaped text stands for. -/
theorem items_containing {text : String} (h : Text.isBlankText text = false) :
    items (containing text).toList = .anything :: items (escapeChars text.toList ++ ['%']) := by
  rw [containing, h, if_neg Bool.false_ne_true, String.toList_ofList, List.cons_append,
    items_cons (by decide)]
  rfl

/-! ## Texts with a backslash -/

/-- A text that the items cover, in which no wildcard takes more than it has to. -/
def briefest : List Item → List Char
  | [] => []
  | .anything :: rest => briefest rest
  | .anyOne :: rest => 'a' :: briefest rest
  | .only c :: rest => c :: briefest rest

theorem covers_briefest (pattern : List Item) : covers pattern (briefest pattern) = true := by
  induction pattern with
  | nil => rfl
  | cons item rest ih =>
    cases item with
    | anything => exact covers_anything.2 ⟨[], briefest rest, rfl, ih⟩
    | anyOne => exact ih
    | only c =>
      rw [briefest, covers, ih, beq_self_eq_true]
      rfl

/-- The briefest text for the escaped characters is no longer than they are. Each backslash among
    them makes it shorter, or is followed in it by another character. -/
theorem briefest_escapeChars (cs : List Char) :
    (briefest (items (escapeChars cs ++ ['%']))).length ≤ cs.length ∧
      ('\\' ∈ cs → briefest (items (escapeChars cs ++ ['%'])) ≠ cs) := by
  induction cs using List.twoStepInduction with
  | nil => decide
  | singleton c =>
    by_cases hc : c = '\\'
    · -- the closing wildcard is taken as it is
      subst hc
      decide
    · rw [items_escapeChars_cons hc]
      exact ⟨le_rfl, fun h => absurd (List.mem_singleton.1 h).symm hc⟩
  | cons_cons c d cs ih ih' =>
    by_cases hc : c = '\\'
    · subst hc
      have hlength := ih.1
      by_cases hwild : d = '%' ∨ d = '_'
      · rw [items_escapeChars_wildcard hwild]
        rcases hwild with rfl | rfl
        · have hshort : ('\\' :: briefest (items (escapeChars cs ++ ['%']))).length <
              ('\\' :: '%' :: cs).length := by
            simp only [List.length_cons]
            omega
          exact ⟨hshort.le, fun _ => ne_of_apply_ne List.length hshort.ne⟩
        · have hsame : ('\\' :: 'a' :: briefest (items (escapeChars cs ++ ['%']))).length ≤
              ('\\' :: '_' :: cs).length := by
            simp only [List.length_cons]
            omega
          exact ⟨hsame, fun _ heq => absurd (List.cons.inj (List.cons.inj heq).2).1 (by decide)⟩
      · rw [items_escapeChars_lost hwild, briefest]
        have hshort : (d :: briefest (items (escapeChars cs ++ ['%']))).length <
            ('\\' :: d :: cs).length := by
          simp only [List.length_cons]
          omega
        exact ⟨hshort.le, fun _ => ne_of_apply_ne List.length hshort.ne⟩
    · obtain ⟨hlength, hother⟩ := ih' d
      rw [items_escapeChars_cons hc, briefest, List.length_cons, List.length_cons]
      refine ⟨Nat.succ_le_succ hlength, fun hmem heq => ?_⟩
      have hrest : '\\' ∈ d :: cs := (List.mem_cons.1 hmem).resolve_left fun h => hc h.symm
      exact hother hrest (List.cons.inj heq).2

/-- The pattern for a text matches the texts that hold it and no others if and only if the text
    holds no backslash. -/
theorem likes_containing_iff {text : String} (h : Text.isBlankText text = false) :
    (∀ s, likes (containing text) s = true ↔ Text.contains s text = true) ↔
      '\\' ∉ text.toList := by
  constructor
  · intro hlikes hmem
    obtain ⟨hlength, hother⟩ := briefest_escapeChars text.toList
    have hmatched : likes (containing text)
        (String.ofList (briefest (items (escapeChars text.toList ++ ['%'])))) = true := by
      rw [likes, items_containing h, String.toList_ofList]
      exact covers_briefest (.anything :: items (escapeChars text.toList ++ ['%']))
    -- what holds the text and is no longer is the text itself
    have hholds := (hlikes _).1 hmatched
    rw [Text.contains, String.toList_ofList, Text.hasPart_iff] at hholds
    obtain ⟨before, after, hparts⟩ := hholds
    have hlengths := congrArg List.length hparts
    simp only [List.length_append] at hlengths
    have hbefore : before = [] := List.length_eq_zero_iff.1 (by omega)
    have hafter : after = [] := List.length_eq_zero_iff.1 (by omega)
    refine hother hmem ?_
    rw [hparts, hbefore, hafter, List.nil_append, List.append_nil]
  · intro hmem s
    have hend : ∀ rest, covers (items ['%']) rest = true := fun rest =>
      covers_anything.2 ⟨rest, [], (List.append_nil rest).symm, rfl⟩
    rw [likes, items_containing h, items_escapeChars hmem, covers_anything, Text.contains,
      Text.hasPart_iff]
    constructor
    · rintro ⟨before, rest, hs, hrest⟩
      obtain ⟨after, hword, -⟩ := covers_only.1 hrest
      exact ⟨before, after, by rw [hs, hword, List.append_assoc]⟩
    · rintro ⟨before, after, hs⟩
      refine ⟨before, text.toList ++ after, by rw [hs, List.append_assoc], ?_⟩
      exact covers_only.2 ⟨after, rfl, hend after⟩

theorem likes_containing_percent :
    Text.isBlankText "5%" = false ∧ containing "5%" = "%5\\%%" ∧
      ∀ s, likes (containing "5%") s = true ↔ Text.contains s "5%" = true := by
  have hblank : Text.isBlankText "5%" = false := by decide
  have hplain : '\\' ∉ "5%".toList := by decide
  exact ⟨hblank, by decide, (likes_containing_iff hblank).2 hplain⟩

/-- Behind a backslash the `%` of a text is a wildcard: what is found need not hold it. -/
theorem likes_containing_backslash :
    Text.isBlankText "\\%" = false ∧ containing "\\%" = "%\\\\%%" ∧
      likes (containing "\\%") "\\x" = true ∧ Text.contains "\\x" "\\%" = false := by
  decide

end CriteriaSql.LikePattern
