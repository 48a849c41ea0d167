/-
  The grammar of templates. A template is read exactly where every opening of a placeholder is
  followed by the rest of one, and what is read is the only way to write the source as placeholders
  and texts that hold no opening and have a placeholder between any two of them
  (`parse_grammar`). An opening starts with a character that stands nowhere else in a placeholder,
  so no opening starts within what is read as a field.
-/
import CriteriaSql.Proofs.Schemas
import Mathlib

namespace CriteriaSql

/-- A piece of text. -/
def Segment.IsLiteral : Segment → Prop
  | .literal _ => True
  | .field _ => False

namespace Template

/-! ## Openings -/

/-- What stands behind an opening is the rest of a placeholder of that name: word characters, at
    least one, and a brace. -/
def Completes (name after : List Char) : Prop :=
  name ≠ [] ∧ (∀ c ∈ name, Text.isWord c = true) ∧ name ++ ['\x7d'] <+: after

/-- What stands behind each opening, from left to right. -/
def openings (kind : TemplateKind) (cs : List Char) : List (List Char) :=
  cs.tails.filterMap (·.dropPrefix? kind.opener)

variable {kind : TemplateKind} {cs name after : List Char}

theorem mem_openings :
    after ∈ openings kind cs ↔ ∃ before, cs = before ++ kind.opener ++ after := by
  simp only [openings, List.mem_filterMap, List.mem_tails, List.dropPrefix?_eq_some_iff, beq_iff_eq]
  constructor
  · rintro ⟨_, ⟨before, rfl⟩, opener, rfl, rfl⟩
    exact ⟨before, (List.append_assoc _ _ _).symm⟩
  · rintro ⟨before, rfl⟩
    exact ⟨kind.opener ++ after, ⟨before, (List.append_assoc _ _ _).symm⟩, _, rfl, rfl⟩

theorem openings_opened (kind : TemplateKind) (after : List Char) :
    openings kind (kind.opener ++ after) = after :: openings kind ('\x7b' :: after) := by
  have hdrop : (kind.opener ++ after).dropPrefix? kind.opener = some after :=
    List.dropPrefix?_eq_some_iff.2 ⟨kind.opener, rfl, beq_self_eq_true _⟩
  unfold openings
  rw [show kind.opener ++ after = kind.sigil :: '\x7b' :: after from rfl] at hdrop ⊢
  rw [List.tails_cons, List.filterMap_cons, hdrop]

theorem openings_cons {c : Char} (h : ¬kind.opener <+: c :: cs) :
    openings kind (c :: cs) = openings kind cs := by
  have hdrop : (c :: cs).dropPrefix? kind.opener = none := by
    rw [Option.eq_none_iff_forall_ne_some]
    intro after hafter
    obtain ⟨opener, heq, hopener⟩ := List.dropPrefix?_eq_some_iff.1 hafter
    rw [beq_iff_eq.1 hopener] at heq
    exact h ⟨after, heq.symm⟩
  unfold openings
  rw [List.tails_cons, List.filterMap_cons, hdrop]

/-- No opening starts with a character that is not the first one of an opening. -/
theorem openings_append (h : kind.sigil ∉ cs) :
    openings kind (cs ++ after) = openings kind after := by
  induction cs with
  | nil => rfl
  | cons c cs ih =>
    rw [List.mem_cons, not_or] at h
    rw [List.cons_append, openings_cons, ih h.2]
    rintro ⟨rest, hrest⟩
    exact h.1 (List.cons.inj hrest).1

/-! ## Placeholders -/

theorem isWord_sigil (kind : TemplateKind) : Text.isWord kind.sigil = false := by
  cases kind <;> decide

/-- A placeholder at the start is an opening and the rest of a placeholder. -/
theorem placeholder?_eq_some_iff :
    placeholder? kind cs = some (name, after) ↔
      name ≠ [] ∧ (∀ c ∈ name, Text.isWord c = true) ∧
        cs = kind.opener ++ (name ++ '\x7d' :: after) := by
  constructor
  · intro h
    have heq : cs = kind.opener ++ (name ++ '\x7d' :: after) := by
      rw [eq_of_placeholder? h]
      simp
    unfold placeholder? at h
    split at h
    next c d rest =>
      split at h
      next hopen =>
        split at h
        next =>
          cases h
          exact ⟨hopen.2.2, fun c hc => List.mem_takeWhile_imp hc, heq⟩
        next => cases h
      next => cases h
    next => cases h
  · rintro ⟨hne, hword, rfl⟩
    have hbrace : Text.isWord '\x7d' = false := by decide
    have hname : (name ++ '\x7d' :: after).takeWhile Text.isWord = name := by
      rw [List.takeWhile_append_of_pos hword, List.takeWhile_cons_of_neg (by simp [hbrace]),
        List.append_nil]
    have hrest : (name ++ '\x7d' :: after).dropWhile Text.isWord = '\x7d' :: after := by
      rw [List.dropWhile_append_of_pos hword, List.dropWhile_cons_of_neg (by simp [hbrace])]
    rw [show kind.opener ++ (name ++ '\x7d' :: after) =
      kind.sigil :: '\x7b' :: (name ++ '\x7d' :: after) from rfl, placeholder?, hname, hrest]
    simp [hne]

theorem exists_placeholder?_iff (kind : TemplateKind) :
    (∃ read, placeholder? kind (kind.opener ++ after) = some read) ↔
      ∃ name, Completes name after := by
  constructor
  · rintro ⟨⟨name, rest⟩, hread⟩
    obtain ⟨hne, hword, heq⟩ := placeholder?_eq_some_iff.1 hread
    rw [List.append_cancel_left heq]
    exact ⟨name, hne, hword, rest, by simp⟩
  · rintro ⟨name, hne, hword, rest, rfl⟩
    exact ⟨(name, rest), placeholder?_eq_some_iff.2 ⟨hne, hword, by simp⟩⟩

/-- No opening starts within a placeholder, so the next one stands behind it. -/
theorem openings_placeholder (hword : ∀ c ∈ name, Text.isWord c = true) :
    openings kind (kind.opener ++ (name ++ '\x7d' :: after)) =
      (name ++ '\x7d' :: after) :: openings kind after := by
  have hsigil : kind.sigil ∉ '\x7b' :: (name ++ ['\x7d']) := by
    have hname : kind.sigil ∉ name := by
      intro hmem
      have hsigil := hword _ hmem
      rw [isWord_sigil] at hsigil
      cases hsigil
    simp only [List.mem_cons, List.mem_append, List.not_mem_nil, or_false, not_or]
    exact ⟨by cases kind <;> decide, hname, by cases kind <;> decide⟩
  have hrest : '\x7b' :: (name ++ '\x7d' :: after) = '\x7b' :: (name ++ ['\x7d']) ++ after := by
    simp
  rw [openings_opened, hrest, openings_append hsigil]

/-! ## Pieces -/

theorem cut_nil (kind : TemplateKind) : cut kind [] = [] := by
  rw [cut]
  rfl

theorem cut_of_placeholder (h : placeholder? kind cs = some (name, after)) :
    cut kind cs = .field (String.ofList name) :: cut kind after := by
  rw [cut.eq_def]
  split
  next name' after' h' =>
    rw [h] at h'
    cases h'
    rfl
  next h' =>
    rw [h] at h'
    cases h'

theorem cut_cons {c : Char} (h : placeholder? kind (c :: cs) = none) :
    cut kind (c :: cs) = consLiteral c (cut kind cs) := by
  rw [cut.eq_def]
  split
  next name after h' =>
    rw [h] at h'
    cases h'
  next => rfl

section ConsLiteral

variable (c : Char) (segments : List Segment)

theorem consLiteral_nil : consLiteral c [] = [.literal [c]] := rfl

theorem consLiteral_field (name : String) :
    consLiteral c (.field name :: segments) = .literal [c] :: .field name :: segments := rfl

theorem consLiteral_literal (text : List Char) :
    consLiteral c (.literal text :: segments) = .literal (c :: text) :: segments := rfl

end ConsLiteral

/-- Two pieces of which at most one is text. -/
def Apart (s t : Segment) : Prop := ¬(s.IsLiteral ∧ t.IsLiteral)

theorem apart_field (name : String) (s : Segment) : Apart (.field name) s := fun h => h.1

theorem isChain_cut (kind : TemplateKind) (cs : List Char) : (cut kind cs).IsChain Apart := by
  fun_induction cut kind cs with
  | case1 cs name after h ih =>
    cases hcut : cut kind after with
    | nil => exact .singleton _
    | cons s segments =>
      rw [hcut] at ih
      exact .cons_cons (apart_field _ _) ih
  | case2 h => exact .nil
  | case3 c cs h ih =>
    cases hcut : cut kind cs with
    | nil => exact .singleton _
    | cons s segments =>
      rw [hcut] at ih
      cases s with
      | field name => exact .cons_cons (fun hboth => hboth.2) ih
      | literal text =>
        -- the longer text has the same neighbour
        cases segments with
        | nil => exact .singleton _
        | cons t segments =>
          obtain ⟨hnext, hrest⟩ := List.isChain_cons_cons.1 ih
          exact .cons_cons hnext hrest

theorem literal_ne_nil {text : List Char} (h : .literal text ∈ cut kind cs) : text ≠ [] := by
  fun_induction cut kind cs with
  | case1 cs name after _ ih =>
    rcases List.mem_cons.1 h with h | h
    · cases h
    · exact ih h
  | case2 => cases h
  | case3 c cs _ ih =>
    unfold consLiteral at h
    split at h
    next text' segments hcut =>
      rcases List.mem_cons.1 h with h | h
      · cases h
        exact List.cons_ne_nil _ _
      · exact ih (hcut ▸ List.mem_cons_of_mem _ h)
    next =>
      rcases List.mem_cons.1 h with h | h
      · cases h
        exact List.cons_ne_nil _ _
      · exact ih h

theorem fieldNames_consLiteral (c : Char) (segments : List Segment) :
    (consLiteral c segments).filterMap Segment.field? = segments.filterMap Segment.field? := by
  unfold consLiteral
  split <;> rfl

/-- An opening is told by its first two characters. -/
theorem opener_prefix_iff {c : Char} {rest : List Char} :
    kind.opener <+: c :: rest ↔ c = kind.sigil ∧ rest.head? = some '\x7b' := by
  cases rest with
  | nil => simp [TemplateKind.opener]
  | cons d rest => simp [TemplateKind.opener, eq_comm]

theorem any_isUnterminated_literal (text : List Char) (segments : List Segment) :
    (Segment.literal text :: segments).any (isUnterminated kind) = true ↔
      Text.hasPart kind.opener text = true ∨ segments.any (isUnterminated kind) = true := by
  rw [List.any_cons, Bool.or_eq_true]
  rfl

theorem hasPart_opener_cons {c : Char} {text : List Char} :
    Text.hasPart kind.opener (c :: text) = true ↔
      kind.opener <+: c :: text ∨ Text.hasPart kind.opener text = true := by
  rw [Text.hasPart, Bool.or_eq_true, List.isPrefixOf_iff_prefix]

theorem any_isUnterminated_eq_false_iff {segments : List Segment} :
    segments.any (isUnterminated kind) = false ↔
      ∀ text, .literal text ∈ segments → ¬kind.opener <:+: text := by
  have hholds (text : List Char) :
      isUnterminated kind (.literal text) = true ↔ kind.opener <:+: text := by
    rw [isUnterminated, Text.hasPart_iff, List.IsInfix]
    simp only [eq_comm]
  rw [List.any_eq_false]
  constructor
  · exact fun hall text htext hopen => hall _ htext ((hholds text).2 hopen)
  · intro hall s hs
    cases s with
    | field name => exact Bool.false_ne_true
    | literal text => exact fun hopen => hall text hs ((hholds text).1 hopen)

theorem hasPart_opener_nil : Text.hasPart kind.opener [] = false := rfl

/-- A character in front of the pieces adds an opening to their text exactly where it adds one to
    the source. -/
theorem any_isUnterminated_consLiteral (c : Char) (cs : List Char) :
    (consLiteral c (cut kind cs)).any (isUnterminated kind) = true ↔
      kind.opener <+: c :: cs ∨ (cut kind cs).any (isUnterminated kind) = true := by
  have hwritten := written_cut kind cs
  have hne (text : List Char) (h : .literal text ∈ cut kind cs) : text ≠ [] := literal_ne_nil h
  have halone : ¬kind.opener <+: [c] := fun h => by simpa using (opener_prefix_iff.1 h).2
  cases hcut : cut kind cs with
  | nil =>
    rw [hcut] at hwritten
    rw [← hwritten, consLiteral_nil, any_isUnterminated_literal, hasPart_opener_cons,
      hasPart_opener_nil]
    simp
  | cons s segments =>
    rw [hcut] at hwritten hne
    cases s with
    | field name =>
      have hopen : ¬kind.opener <+: c :: cs := by
        rw [← hwritten, opener_prefix_iff]
        cases kind <;> simp [written, TemplateKind.opener, TemplateKind.sigil]
      rw [consLiteral_field, any_isUnterminated_literal, hasPart_opener_cons, hasPart_opener_nil]
      simp only [halone, hopen, Bool.false_eq_true, false_or]
    | literal text =>
      obtain ⟨d, text, rfl⟩ := List.exists_cons_of_ne_nil (hne text List.mem_cons_self)
      have hopen : kind.opener <+: c :: d :: text ↔ kind.opener <+: c :: cs := by
        rw [← hwritten, opener_prefix_iff, opener_prefix_iff]
        rfl
      rw [consLiteral_literal, any_isUnterminated_literal, hasPart_opener_cons, hopen,
        any_isUnterminated_literal, or_assoc]

/-! ## Reading -/

/-- No piece of text holds an opening exactly where every opening is that of a placeholder. -/
theorem any_isUnterminated_cut (kind : TemplateKind) (cs : List Char) :
    (cut kind cs).any (isUnterminated kind) = false ↔
      ∀ after ∈ openings kind cs, ∃ name, Completes name after := by
  rw [← Bool.not_eq_true]
  fun_induction cut kind cs with
  | case1 cs name after h ih =>
    obtain ⟨hne, hword, rfl⟩ := placeholder?_eq_some_iff.1 h
    have hfirst : ∃ n, Completes n (name ++ '\x7d' :: after) :=
      ⟨name, hne, hword, after, by simp⟩
    rw [openings_placeholder hword, List.forall_mem_cons, ← ih, List.any_cons]
    simp [isUnterminated, hfirst]
  | case2 h => simp [openings, TemplateKind.opener, List.dropPrefix?]
  | case3 c cs h ih =>
    rw [any_isUnterminated_consLiteral]
    by_cases hopen : kind.opener <+: c :: cs
    · obtain ⟨after, hafter⟩ := hopen
      have hnone : ¬∃ name, Completes name after := by
        rw [← exists_placeholder?_iff kind, hafter, h]
        simp
      have hmem : after ∈ openings kind (c :: cs) := mem_openings.2 ⟨[], hafter.symm⟩
      have hstart : kind.opener <+: c :: cs := ⟨after, hafter⟩
      simp only [hstart, true_or, not_true, false_iff]
      exact fun hall => hnone (hall after hmem)
    · rw [openings_cons hopen, ← ih]
      simp [hopen]

/-- The fields are the placeholders of the openings, one by one. -/
theorem completes_cut (h : ∀ after ∈ openings kind cs, ∃ name, Completes name after) :
    List.Forall₂ (fun name after => Completes name.toList after)
      ((cut kind cs).filterMap Segment.field?) (openings kind cs) := by
  fun_induction cut kind cs with
  | case1 cs name after hread ih =>
    obtain ⟨hne, hword, rfl⟩ := placeholder?_eq_some_iff.1 hread
    rw [openings_placeholder hword] at h ⊢
    refine .cons ?_ (ih fun after hafter => h after (List.mem_cons_of_mem _ hafter))
    rw [String.toList_ofList]
    exact ⟨hne, hword, after, by simp⟩
  | case2 => exact .nil
  | case3 c cs hread ih =>
    have hopen : ¬kind.opener <+: c :: cs := by
      rintro ⟨after, hafter⟩
      obtain ⟨read, hsome⟩ := (exists_placeholder?_iff kind).2
        (h after (mem_openings.2 ⟨[], hafter.symm⟩))
      rw [hafter, hread] at hsome
      cases hsome
    rw [openings_cons hopen] at h ⊢
    rw [fieldNames_consLiteral]
    exact ih h

/-! ## Writing -/

/-- Text without an opening is read as it is, if neither a brace nor more text follows it. -/
theorem cut_literal {text : List Char} (hne : text ≠ []) (hplain : ¬kind.opener <:+: text)
    (hbrace : after.head? ≠ some '\x7b') (hnext : ∀ s ∈ (cut kind after).head?, ¬s.IsLiteral) :
    cut kind (text ++ after) = .literal text :: cut kind after := by
  have hread (cs : List Char) (h : ¬kind.opener <+: cs) : placeholder? kind cs = none := by
    rw [Option.eq_none_iff_forall_ne_some]
    rintro ⟨name, rest⟩ hsome
    exact h ⟨_, (placeholder?_eq_some_iff.1 hsome).2.2.symm⟩
  induction text with
  | nil => exact absurd rfl hne
  | cons c text ih =>
    cases text with
    | nil =>
      have hopen : ¬kind.opener <+: c :: after := fun h => hbrace (opener_prefix_iff.1 h).2
      rw [List.singleton_append, cut_cons (hread _ hopen)]
      cases hcut : cut kind after with
      | nil => rfl
      | cons s segments =>
        rw [hcut] at hnext
        cases s with
        | field name => rfl
        | literal text => exact absurd trivial (hnext _ rfl)
    | cons d text =>
      have hopen : ¬kind.opener <+: c :: d :: (text ++ after) := by
        intro h
        have hfirst := opener_prefix_iff.1 h
        have hstart : kind.opener <+: c :: d :: text := opener_prefix_iff.2 hfirst
        exact hplain hstart.isInfix
      have hrest := ih (List.cons_ne_nil _ _) fun h =>
        hplain (h.trans (List.suffix_cons _ _).isInfix)
      rw [List.cons_append, List.cons_append, cut_cons (hread _ hopen), ← List.cons_append, hrest]
      rfl

/-- Pieces that are written out are read again. -/
theorem cut_written {segments : List Segment}
    (hliterals : ∀ text, .literal text ∈ segments → text ≠ [] ∧ ¬kind.opener <:+: text)
    (hfields : ∀ name, .field name ∈ segments →
      name.toList ≠ [] ∧ ∀ c ∈ name.toList, Text.isWord c = true)
    (hapart : segments.IsChain Apart) :
    cut kind (segments.flatMap (written kind)) = segments := by
  induction segments with
  | nil => exact cut_nil kind
  | cons s segments ih =>
    have hrest := ih (fun text h => hliterals text (List.mem_cons_of_mem _ h))
      (fun name h => hfields name (List.mem_cons_of_mem _ h)) hapart.tail
    rw [List.flatMap_cons]
    cases s with
    | field name =>
      obtain ⟨hne, hword⟩ := hfields name List.mem_cons_self
      have hread : placeholder? kind
          (written kind (.field name) ++ segments.flatMap (written kind)) =
            some (name.toList, segments.flatMap (written kind)) :=
        placeholder?_eq_some_iff.2 ⟨hne, hword, by simp [written]⟩
      rw [cut_of_placeholder hread, String.ofList_toList, hrest]
    | literal text =>
      obtain ⟨hne, hplain⟩ := hliterals text List.mem_cons_self
      have hnext : ∀ t ∈ segments.head?, ¬t.IsLiteral := by
        intro t ht hliteral
        exact hapart.rel_head? ht ⟨trivial, hliteral⟩
      have hbrace : (segments.flatMap (written kind)).head? ≠ some '\x7b' := by
        cases segments with
        | nil => simp
        | cons t segments =>
          cases t with
          | literal text => exact absurd trivial (hnext _ rfl)
          | field name => cases kind <;> simp [written, TemplateKind.opener, TemplateKind.sigil]
      rw [← hrest] at hnext
      rw [written, cut_literal hne hplain hbrace hnext, hrest]

/-! ## Templates -/

/-- What a template is for its source. -/
structure Of (t : Template) (kind : TemplateKind) (source : String) : Prop where
  source_eq : t.source = source
  /-- The pieces written one after the other are the source. -/
  written : t.segments.flatMap (written kind) = source.toList
  /-- Every piece of text holds something, but no opening. -/
  literals : ∀ text, .literal text ∈ t.segments → text ≠ [] ∧ ¬kind.opener <:+: text
  /-- A field stands between any two pieces of text. -/
  apart : t.segments.IsChain Apart
  /-- The fields are the placeholders of the openings, from left to right. -/
  fields : List.Forall₂ (fun name after => Completes name.toList after) t.fieldNames
    (openings kind source.toList)

/-- A template is read exactly where every opening is that of a placeholder, and it is the one
    template that its source can be written as. -/
theorem parse_grammar (kind : TemplateKind) (source : String) :
    ((∃ t, parse kind source = .ok t) ↔
      ∀ before after, source.toList = before ++ kind.opener ++ after →
        ∃ name, Completes name after) ∧
    ∀ t, parse kind source = .ok t ↔ t.Of kind source := by
  have hcloses : (cut kind source.toList).any (isUnterminated kind) = false ↔
      ∀ before after, source.toList = before ++ kind.opener ++ after →
        ∃ name, Completes name after := by
    rw [any_isUnterminated_cut]
    constructor
    · exact fun hall before after heq => hall after (mem_openings.2 ⟨before, heq⟩)
    · intro hall after hafter
      obtain ⟨before, heq⟩ := mem_openings.1 hafter
      exact hall before after heq
  refine ⟨?_, fun t => ⟨fun hparse => ?_, fun hof => ?_⟩⟩
  · rw [← hcloses]
    constructor
    · rintro ⟨t, hparse⟩
      exact (parse_eq_ok.1 hparse).1
    · exact fun hclosed => ⟨_, parse_eq_ok.2 ⟨hclosed, rfl⟩⟩
  · obtain ⟨hclosed, rfl⟩ := parse_eq_ok.1 hparse
    exact {
      source_eq := rfl
      written := written_cut kind source.toList
      literals := fun text htext =>
        ⟨literal_ne_nil htext, any_isUnterminated_eq_false_iff.1 hclosed text htext⟩
      apart := isChain_cut kind source.toList
      fields := completes_cut ((any_isUnterminated_cut kind source.toList).1 hclosed) }
  · have hfields : ∀ name ∈ t.fieldNames,
        name.toList ≠ [] ∧ ∀ c ∈ name.toList, Text.isWord c = true :=
      ((List.forall₂_and_left _ _).1 (hof.fields.imp fun name after h => ⟨⟨h.1, h.2.1⟩, h⟩)).1
    have hcut : cut kind source.toList = t.segments := by
      rw [← hof.written]
      refine cut_written hof.literals (fun name hname => hfields name ?_) hof.apart
      exact List.mem_filterMap.2 ⟨_, hname, rfl⟩
    refine parse_eq_ok.2 ⟨?_, ?_⟩
    · rw [hcut]
      exact any_isUnterminated_eq_false_iff.2 fun text htext => (hof.literals text htext).2
    · rw [hcut, ← hof.source_eq]

example : parse .table "$\x7b$\x7ba\x7d" =
    .error (.invalidTemplate "$\x7b$\x7ba\x7d" (.unterminated "$\x7b")) := by
  cbv

end Template

end CriteriaSql
