/-
  Fragments in pieces. `SplitsInto f pieces` says that the text of `f` is the texts of the pieces
  from left to right, with plain texts before, between and behind them, that its arguments are
  those of the pieces in the same order, and that each piece has as many placeholders as arguments.
  The ways in which statements put fragments together keep it.
-/
import CriteriaSql.Proofs.PlainText
import CriteriaSql.Statement.Select

namespace CriteriaSql

open Text (Plain)

namespace Fragment

/-! ## Balance -/

@[simp] theorem balanced_ofText {t : String} : (ofText t).Balanced ↔ Plain t := by
  rw [Text.plain_iff_countChar]
  rfl

@[simp] theorem balanced_append_right {f g : Fragment} (hg : g.Balanced) :
    (f ++ g).Balanced ↔ f.Balanced := by
  unfold Balanced at *
  rw [placeholders_append, args_append, List.length_append, hg, Nat.add_right_cancel_iff]

theorem balanced_argumentList (args : List Scalar) : (argumentList args).Balanced := by
  have hlist (n : Nat) : Text.countChar '?' (", ".intercalate (List.replicate n "?")) = n := by
    induction n with
    | zero => simp [Text.countChar]
    | succ n ih =>
      by_cases h : List.replicate n "?" = []
      · rw [List.replicate_eq_nil_iff] at h
        subst h
        decide
      · rw [List.replicate_succ, String.intercalate_cons_of_ne_nil h, Text.countChar_append,
          Text.countChar_append, ih, show Text.countChar '?' "?" = 1 by decide,
          show Text.countChar '?' ", " = 0 by decide]
        omega
  unfold Balanced placeholders argumentList placeholderList
  dsimp only
  split
  next h =>
    rw [h]
    decide
  next =>
    rw [Text.countChar_append, Text.countChar_append, hlist,
      show Text.countChar '?' "(" = 0 by decide, show Text.countChar '?' ")" = 0 by decide]
    omega

theorem Balanced.parenthesized {f : Fragment} (h : f.Balanced) : f.parenthesized.Balanced := by
  simp +decide [Fragment.parenthesized, h]

theorem Balanced.joinWith {separator : String} {fs : List Fragment} (hs : Plain separator)
    (h : ∀ f ∈ fs, f.Balanced) : (joinWith separator fs).Balanced := by
  fun_induction Fragment.joinWith separator fs with
  | case1 => exact balanced_ofText.2 (by decide)
  | case2 f => exact h f List.mem_cons_self
  | case3 f g fs ih =>
    exact ((h f List.mem_cons_self).append (balanced_ofText.2 hs)).append
      (ih fun f hf => h f (List.mem_cons_of_mem _ hf))

/-! ## Pieces -/

/-- The text is that of the pieces in order, with plain texts around them, and the arguments are
    those of the pieces in order; each piece has as many placeholders as arguments. -/
inductive SplitsInto : Fragment → List Fragment → Prop
  | text {t : String} (ht : Plain t) : SplitsInto (ofText t) []
  | piece {t : String} {p rest : Fragment} {ps : List Fragment} (ht : Plain t) (hp : p.Balanced)
      (h : SplitsInto rest ps) : SplitsInto (ofText t ++ p ++ rest) (p :: ps)

theorem append_assoc (f g h : Fragment) : f ++ g ++ h = f ++ (g ++ h) := by
  change Fragment.mk _ _ = Fragment.mk _ _
  simp [String.append_assoc]

theorem ofText_append (t u : String) : ofText (t ++ u) = ofText t ++ ofText u := rfl

theorem joinWith_append {separator : String} {fs gs : List Fragment} (hf : fs ≠ [])
    (hg : gs ≠ []) :
    joinWith separator (fs ++ gs) =
      joinWith separator fs ++ ofText separator ++ joinWith separator gs := by
  fun_induction Fragment.joinWith separator fs with
  | case1 => exact absurd rfl hf
  | case2 f =>
    cases gs with
    | nil => exact absurd rfl hg
    | cons g gs => rfl
  | case3 f g fs ih =>
    rw [List.cons_append, List.cons_append, Fragment.joinWith, ← List.cons_append,
      ih (List.cons_ne_nil g fs)]
    simp only [append_assoc]

theorem append_ofText_empty (f : Fragment) : f ++ ofText "" = f := by
  change Fragment.mk _ _ = _
  simp [ofText]

namespace SplitsInto

variable {f g p : Fragment} {ps qs : List Fragment}

/-- The arguments are those of the pieces. -/
theorem args_eq (h : f.SplitsInto ps) : f.args = ps.flatMap Fragment.args := by
  induction h with
  | text => rfl
  | piece _ _ _ ih => simp [ih]

theorem balanced_of_mem (h : f.SplitsInto ps) (hp : p ∈ ps) : p.Balanced := by
  induction h with
  | text => cases hp
  | piece _ hb _ ih =>
    rcases List.mem_cons.1 hp with rfl | hp
    · exact hb
    · exact ih hp

theorem balanced (h : f.SplitsInto ps) : f.Balanced := by
  induction h with
  | text ht => exact balanced_ofText.2 ht
  | piece ht hp _ ih => exact ((balanced_ofText.2 ht).append hp).append ih

theorem text_append {t : String} (ht : Plain t) (h : f.SplitsInto ps) :
    (ofText t ++ f).SplitsInto ps := by
  cases h with
  | text hu => exact text (Text.plain_append.2 ⟨ht, hu⟩)
  | piece hu hp h =>
    rw [← append_assoc, ← append_assoc, ← ofText_append]
    exact piece (Text.plain_append.2 ⟨ht, hu⟩) hp h

theorem append (hf : f.SplitsInto ps) (hg : g.SplitsInto qs) : (f ++ g).SplitsInto (ps ++ qs) := by
  induction hf with
  | text ht => exact text_append ht hg
  | piece ht hp _ ih =>
    rw [append_assoc]
    exact piece ht hp ih

theorem append_text {t : String} (hf : f.SplitsInto ps) (ht : Plain t) :
    (f ++ ofText t).SplitsInto ps := by
  simpa using hf.append (text ht)

theorem single (hp : p.Balanced) : p.SplitsInto [p] := by
  have := piece (t := "") (by decide) hp (text (t := "") (by decide))
  rwa [append_ofText_empty, show ofText "" ++ p = p by change Fragment.mk _ _ = _; simp [ofText]]
    at this

theorem joinWith {separator : String} (hs : Plain separator) (h : ∀ p ∈ ps, p.Balanced) :
    (joinWith separator ps).SplitsInto ps := by
  fun_induction Fragment.joinWith separator ps with
  | case1 => exact text (by decide)
  | case2 p => exact single (h p List.mem_cons_self)
  | case3 p q ps ih =>
    exact ((single (h p List.mem_cons_self)).append_text hs).append
      (ih fun p hp => h p (List.mem_cons_of_mem _ hp))

/-- Pieces that each follow the same plain text. -/
theorem concat_map (lead : String) (hl : Plain lead) (h : ∀ p ∈ ps, p.Balanced) :
    (concat (ps.map fun p => lead ++ p)).SplitsInto ps := by
  induction ps with
  | nil => exact text (by decide)
  | cons p ps ih =>
    exact (text_append hl (single (h p List.mem_cons_self))).append
      (ih fun p hp => h p (List.mem_cons_of_mem _ hp))

theorem whereClause (h : ∀ p ∈ ps, p.Balanced) : (whereClause ps).SplitsInto ps := by
  unfold CriteriaSql.whereClause
  split
  · exact text (by decide)
  · exact text_append (by decide) (joinWith (by decide) h)

end SplitsInto

end Fragment

/-! ## Pages -/

/-- A dialect that leaves the number of placeholders as it is. -/
def Dialect.KeepsPlaceholders (d : Dialect) : Prop :=
  ∀ sql limit offset, Text.countChar '?' (d.page sql limit offset) = Text.countChar '?' sql

/-- A dialect that puts plain texts before and behind a statement. -/
def Dialect.Frames (d : Dialect) : Prop :=
  ∀ sql limit offset, ∃ before behind,
    Plain before ∧ Plain behind ∧ d.page sql limit offset = before ++ sql ++ behind

theorem Dialect.Frames.keepsPlaceholders {d : Dialect} (h : d.Frames) : d.KeepsPlaceholders := by
  intro sql limit offset
  obtain ⟨before, behind, hb, ha, he⟩ := h sql limit offset
  rw [Text.plain_iff_countChar] at hb ha
  rw [he, Text.countChar_append, Text.countChar_append, hb, ha]
  omega

/-- A built-in dialect puts a plain text behind a statement. -/
theorem DialectKind.page_eq_append (kind : DialectKind) (sql : String) (limit : UInt32)
    (offset : UInt64) : ∃ behind, Plain behind ∧ kind.page sql limit offset = sql ++ behind := by
  unfold page
  dsimp only
  split
  · refine ⟨" LIMIT " ++ toString limit.toNat ++ " OFFSET " ++ toString offset.toNat, ?_, ?_⟩
    · simp +decide
    · simp only [String.append_assoc]
  · refine ⟨" LIMIT " ++ toString limit.toNat, ?_, ?_⟩
    · simp +decide
    · simp only [String.append_assoc]
  · refine ⟨" OFFSET " ++ toString offset.toNat ++ " ROWS FETCH NEXT " ++ toString limit.toNat ++
      " ROWS ONLY", ?_, ?_⟩
    · simp +decide
    · simp only [String.append_assoc]
  · refine ⟨" FETCH FIRST " ++ toString limit.toNat ++ " ROWS ONLY", ?_, ?_⟩
    · simp +decide
    · simp only [String.append_assoc]

theorem Dialect.frames_builtIn (kind : DialectKind) : (Dialect.builtIn kind).Frames := by
  intro sql limit offset
  obtain ⟨behind, hplain, hpage⟩ := kind.page_eq_append sql limit offset
  refine ⟨"", behind, by decide, hplain, ?_⟩
  rw [String.empty_append]
  exact hpage

namespace Page

variable {s : Settings} {f : Fragment} {ps : List Fragment}

@[simp] theorem args_cut (p : Page) (s : Settings) (f : Fragment) : (p.cut s f).args = f.args := by
  unfold cut
  split <;> rfl

theorem balanced_cut (p : Page) (hd : s.dialect.KeepsPlaceholders) (h : f.Balanced) :
    (p.cut s f).Balanced := by
  unfold cut
  split
  · exact (hd _ _ _).trans h
  · exact h

theorem splitsInto_cut (p : Page) (hd : s.dialect.Frames) (h : f.SplitsInto ps) :
    (p.cut s f).SplitsInto ps := by
  unfold cut
  split
  · obtain ⟨before, behind, hb, ha, he⟩ := hd f.text p.effectiveSize p.offset
    have := (h.text_append hb).append_text ha
    rwa [show Fragment.ofText before ++ f ++ Fragment.ofText behind =
        { f with text := s.dialect.page f.text p.effectiveSize p.offset } by
      rw [he]; change Fragment.mk _ _ = Fragment.mk _ _; simp] at this
  · exact h

end Page

end CriteriaSql
