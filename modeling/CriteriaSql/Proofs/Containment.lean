/-
  The two forms of a search for a part of a text: the pattern of a LIKE condition and the
  expression of a document test. For a part without backslash they find the same texts exactly where
  the part has a character that is not blank (`like_forms_alike_iff`): a blank part is its own
  pattern, which finds no text but that part, while its expression finds every text that holds it.
-/
import CriteriaSql.Proofs.Lookup.FilterDocument
import CriteriaSql.Proofs.LikePattern
import Mathlib

namespace CriteriaSql

/-! ## Patterns -/

namespace LikePattern

/-- Anything around characters that stand for themselves covers what holds these characters. -/
theorem covers_around {word cs : List Char} :
    covers (.anything :: (word.map .only ++ [.anything])) cs = true ↔
      Text.hasPart word cs = true := by
  rw [covers_anything, Text.hasPart_iff]
  constructor
  · rintro ⟨before, rest, rfl, hrest⟩
    obtain ⟨after, rfl, -⟩ := covers_only.1 hrest
    exact ⟨before, after, (List.append_assoc _ _ _).symm⟩
  · rintro ⟨before, after, rfl⟩
    have hafter : covers [.anything] after = true :=
      covers_anything.2 ⟨after, [], (List.append_nil after).symm, rfl⟩
    exact ⟨before, word ++ after, List.append_assoc _ _ _, covers_only.2 ⟨after, rfl, hafter⟩⟩

/-- The pattern for a text without backslash finds the texts that hold it. -/
theorem likes_of_plain {text : String} (hblank : Text.isBlankText text = false)
    (hplain : '\\' ∉ text.toList) (s : String) :
    likes (containing text) s = true ↔ Text.contains s text = true := by
  rw [likes, items_containing hblank, items_escapeChars hplain]
  exact covers_around

/-- Characters without a meaning of their own in a pattern stand for themselves. -/
theorem items_of_unmarked {cs : List Char} (h : ∀ c ∈ cs, c ≠ '\\' ∧ c ≠ '%' ∧ c ≠ '_') :
    items cs = cs.map .only := by
  induction cs with
  | nil => rfl
  | cons c cs ih =>
    obtain ⟨hescape, hany, hone⟩ := h c List.mem_cons_self
    rw [items_cons hescape, Item.ofChar, if_neg hany, if_neg hone, List.map_cons,
      ih fun d hd => h d (List.mem_cons_of_mem c hd)]

/-- A blank text is a pattern that finds no other text. -/
theorem likes_of_blank {text : String} (h : Text.isBlankText text = true) (s : String) :
    likes (containing text) s = true ↔ s = text := by
  have hunmarked : ∀ c ∈ text.toList, c ≠ '\\' ∧ c ≠ '%' ∧ c ≠ '_' := by
    intro c hc
    have hblank := List.all_eq_true.1 h c hc
    refine ⟨?_, ?_, ?_⟩ <;>
    · rintro rfl
      exact absurd hblank (by decide)
  have hitems : items text.toList = text.toList.map .only ++ [] := by
    rw [items_of_unmarked hunmarked, List.append_nil]
  rw [likes, containing, if_pos h, hitems, covers_only, ← String.toList_inj]
  simp [covers]

end LikePattern

/-! ## Expressions -/

/-- The characters that an expression of plain and escaped characters stands for. -/
def unescaped : List Char → List Char
  | [] => []
  | [c] => [c]
  | c :: d :: cs => if c = '\\' then d :: unescaped cs else c :: unescaped (d :: cs)

theorem unescaped_cons {c : Char} (h : c ≠ '\\') (cs : List Char) :
    unescaped (c :: cs) = c :: unescaped cs := by
  cases cs with
  | nil => rfl
  | cons d cs => rw [unescaped, if_neg h]

/-- Escaping a text keeps what it stands for. -/
theorem unescaped_literalPattern (text : String) :
    unescaped (literalPattern text).toList = text.toList := by
  rw [literalPattern, String.toList_ofList]
  induction text.toList with
  | nil => rfl
  | cons c cs ih =>
    rw [List.flatMap_cons]
    by_cases hmark : c ∈ patternMarks
    · rw [if_pos hmark, List.cons_append, List.singleton_append, unescaped, if_pos rfl, ih]
    · have hc : c ≠ '\\' := by
        rintro rfl
        exact hmark (by decide)
      rw [if_neg hmark, List.singleton_append, unescaped_cons hc, ih]

/-- Whether a text holds what an expression of plain and escaped characters stands for. -/
def findsUnescaped (expression s : String) : Bool :=
  Text.contains s (String.ofList (unescaped expression.toList))

theorem findsUnescaped_literalPattern (text s : String) :
    findsUnescaped (literalPattern text) s = true ↔ Text.contains s text = true := by
  rw [findsUnescaped, unescaped_literalPattern, String.ofList_toList]

/-! ## Both forms -/

section Forms

variable {x : Operand} {text : String} (h : x.value = .scalar (.text text)) (column : String)
include h

theorem Operand.compare_like :
    x.compare column .like =
      .ok (some ⟨column ++ " LIKE ?", [.text (LikePattern.containing text)]⟩) := by
  have htext : column ++ " LIKE " ++ "?" = column ++ " LIKE ?" := String.append_assoc
  unfold compare
  rw [h, ← htext]
  rfl

theorem Operand.document_like :
    x.document column .like =
      .ok (some (.field column (.field "$regex" (Json.text (literalPattern text))))) := by
  unfold document test
  rw [h]
  rfl

end Forms

open LikePattern in
/-- For a text without backslash a LIKE and a document test are true of the same values exactly
    where the text is not blank. The LIKE for a blank text is true of that text only. -/
theorem like_forms_alike_iff {finds : String → String → Bool}
    (hfinds : ∀ text s, finds (literalPattern text) s = true ↔ Text.contains s text = true)
    {x : Operand} {text : String} (hvalue : x.value = .scalar (.text text))
    (hplain : '\\' ∉ text.toList) (column : String) :
    ∃ pattern expression,
      x.compare column .like = .ok (some ⟨column ++ " LIKE ?", [.text pattern]⟩) ∧
      x.document column .like =
        .ok (some (.field column (.field "$regex" (Json.text expression)))) ∧
      ((∀ s, likes pattern s = true ↔ finds expression s = true) ↔
        Text.isBlankText text = false) ∧
      (Text.isBlankText text = true → ∀ s, likes pattern s = true ↔ s = text) := by
  refine ⟨containing text, literalPattern text, Operand.compare_like hvalue column,
    Operand.document_like hvalue column, ⟨fun halike => ?_, fun hblank s => ?_⟩,
    fun hblank s => likes_of_blank hblank s⟩
  · by_contra hblank
    rw [Bool.not_eq_false] at hblank
    -- a longer text holds the blank one, but is not like it
    have hlonger : Text.contains (text ++ "x") text = true :=
      Text.hasPart_iff.2 ⟨[], ['x'], by simp⟩
    have hsame : text ++ "x" = text :=
      (likes_of_blank hblank _).1 ((halike _).2 ((hfinds _ _).2 hlonger))
    exact absurd (congrArg String.length hsame) (by simp)
  · rw [likes_of_plain hblank hplain, hfinds]

/-- A search for a part that holds a mark of expressions and one of patterns. -/
def hostLike : Operand := ⟨"hostLike", .ordinal, .scalar (.text "a.b%")⟩

theorem like_forms_alike_host :
    hostLike.value = .scalar (.text "a.b%") ∧ '\\' ∉ "a.b%".toList ∧
    ∃ pattern expression,
      hostLike.compare "host" .like = .ok (some ⟨"host LIKE ?", [.text pattern]⟩) ∧
      hostLike.document "host" .like =
        .ok (some (.field "host" (.field "$regex" (Json.text expression)))) ∧
      ((∀ s, LikePattern.likes pattern s = true ↔ findsUnescaped expression s = true) ↔
        Text.isBlankText "a.b%" = false) ∧
      (Text.isBlankText "a.b%" = true → ∀ s, LikePattern.likes pattern s = true ↔ s = "a.b%") :=
  ⟨rfl, by decide,
    like_forms_alike_iff findsUnescaped_literalPattern (x := hostLike) rfl (by decide) "host"⟩

/-- A search for a blank finds a text with a blank in it among documents, but not in SQL. -/
theorem like_forms_differ_blank :
    '\\' ∉ " ".toList ∧
    Operand.compare ⟨"nameLike", .ordinal, .scalar (.text " ")⟩ "name" .like =
      .ok (some ⟨"name LIKE ?", [.text " "]⟩) ∧
    Operand.document ⟨"nameLike", .ordinal, .scalar (.text " ")⟩ "name" .like =
      .ok (some (.field "name" (.field "$regex" (Json.text " ")))) ∧
    LikePattern.likes " " "a b" = false ∧ findsUnescaped " " "a b" = true := by
  refine ⟨by decide, rfl, rfl, ?_⟩
  decide

end CriteriaSql
