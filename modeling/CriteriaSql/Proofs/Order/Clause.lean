/-
  The body of an ORDER BY clause as a text. The words of an item are its column and its direction;
  they consist of word characters and points, so the blank between words and the comma between
  items can be told from them, and the words can be read off the text again (`readTerms_join`).
  A sort expression is refused, orders nothing or gives such a text (`ofSort_lists`).
-/
import CriteriaSql.Proofs.Order.Spelling
import CriteriaSql.Proofs.PlainText

namespace CriteriaSql

/-! ## Characters -/

namespace Text

/-- The code points of blank characters. -/
def blankPoints : List Nat :=
  List.range' 0x9 5 ++ List.range' 0x2000 11 ++
    [0x20, 0x85, 0xA0, 0x1680, 0x2028, 0x2029, 0x202F, 0x205F, 0x3000]

theorem mem_blankPoints_of_isBlank {c : Char} (h : isBlank c = true) : c.toNat ∈ blankPoints := by
  simp only [isBlank, Bool.or_eq_true, Bool.and_eq_true, decide_eq_true_eq, beq_iff_eq] at h
  simp only [blankPoints, List.mem_append, List.mem_range'_1, List.mem_cons, List.not_mem_nil]
  omega

/-- A blank belongs to no word. -/
theorem isWord_of_isBlank {c : Char} (h : isBlank c = true) : isWord c = false := by
  have hpoints : ∀ n ∈ blankPoints, isWord (Char.ofNat n) = false := by decide +kernel
  rw [← Char.ofNat_toNat c]
  exact hpoints _ (mem_blankPoints_of_isBlank h)

end Text

namespace Naming

theorem mem_column {mapCamelCase : Bool} {name : String} {c : Char}
    (h : c ∈ (column mapCamelCase name).toList) :
    c ∈ name.toList ∨ Text.isAsciiWord c = true := by
  unfold column at h
  split at h
  · rw [snake, String.toList_ofList, snakeChars, List.mem_flatMap] at h
    obtain ⟨d, hd, hc⟩ := h
    split at hc
    next hupper =>
      refine Or.inr ?_
      rcases List.mem_cons.1 hc with rfl | hc
      · rfl
      · have halpha : c.isAlpha = true := by
          rw [List.mem_singleton.1 hc, Char.isAlpha_toLower_eq_isAlpha, Char.isAlpha, hupper]
          rfl
        exact Text.isAsciiWord_of_isAlpha halpha
    · exact Or.inl (List.mem_singleton.1 hc ▸ hd)
  · exact Or.inl h

theorem column_ne_empty {mapCamelCase : Bool} {name : String} (h : name ≠ "") :
    column mapCamelCase name ≠ "" := by
  unfold column
  split
  · intro hsnake
    rw [snake, ← String.toList_inj, String.toList_ofList, snakeChars] at hsnake
    refine h (String.toList_inj.1 (List.eq_nil_iff_forall_not_mem.2 fun c hc => ?_))
    have hpart := List.flatMap_eq_nil_iff.1 hsnake c hc
    split at hpart <;> cases hpart
  · exact h

end Naming

/-! ## Words -/

/-- The words of an item in an ORDER BY clause: its column and, if it has one, its direction. -/
def OrderItem.words (mapCamelCase : Bool) (item : OrderItem) : List String :=
  Naming.column mapCamelCase item.field :: item.direction.toList

theorem OrderItem.sql_eq (mapCamelCase : Bool) (item : OrderItem) :
    item.sql mapCamelCase = " ".intercalate (item.words mapCamelCase) := by
  obtain ⟨field, direction⟩ := item
  cases direction with
  | none => exact String.intercalate_singleton.symm
  | some d =>
    rw [words, Option.toList_some, String.intercalate_cons_of_ne_nil (List.cons_ne_nil _ _),
      String.intercalate_singleton]
    rfl

namespace OrderBy

/-- A word is not empty and consists of word characters and points. -/
def IsWordText (word : String) : Prop :=
  word ≠ "" ∧ ∀ c ∈ word.toList, Text.isWord c = true ∨ c = '.'

theorem isFieldChar_iff {c : Char} : isFieldChar c = true ↔ Text.isWord c = true ∨ c = '.' := by
  rw [isFieldChar, Bool.or_eq_true, beq_iff_eq]

theorem Spells.isWordText {segment : String} {item : OrderItem} (h : Spells segment item)
    (mapCamelCase : Bool) : ∀ word ∈ item.words mapCamelCase, IsWordText word := by
  obtain ⟨c, rest, hfield, hstart, hrest⟩ := h.field
  intro word hword
  rcases List.mem_cons.1 hword with rfl | hword
  · refine ⟨Naming.column_ne_empty fun hempty => ?_, fun d hd => ?_⟩
    · rw [hempty] at hfield
      cases hfield
    · rcases Naming.mem_column hd with hd | hd
      · rw [hfield] at hd
        rcases List.mem_cons.1 hd with rfl | hd
        · exact isFieldChar_iff.1 (isFieldChar_of_isFieldStart hstart)
        · exact isFieldChar_iff.1 (hrest d hd)
      · exact Or.inl (Text.isWord_of_isAsciiWord hd)
  · have hdirection := h.direction word (Option.mem_toList.1 hword)
    refine ⟨?_, fun d hd => Or.inl (isWord_of_mem_direction hdirection d hd)⟩
    rintro rfl
    cases hdirection

theorem IsWordText.not_mem {word : String} (h : IsWordText word) {c : Char}
    (hc : Text.isWord c = false) (hpoint : c ≠ '.') : c ∉ word.toList := by
  intro hmem
  rcases h.2 c hmem with hword | hword
  · rw [hc] at hword
    cases hword
  · exact hpoint hword

/-! ## Reading -/

/-- The parts of a text between blanks, less the empty ones. -/
def readWords (cs : List Char) : List (List Char) := (cs.splitOn ' ').filter (· ≠ [])

/-- Reads the items off the body of an ORDER BY clause: between commas stands an item, between
    blanks one of its words. -/
def readTerms (text : String) : List (List String) :=
  (text.toList.splitOn ',').map fun part => (readWords part).map String.ofList

theorem readWords_blank (cs : List Char) : readWords (' ' :: cs) = readWords cs := by
  unfold readWords
  rw [List.splitOn, List.splitOnP_cons_eq_if_modifyHead]
  simp [List.splitOn]

theorem readWords_join {words : List (List Char)} (hne : words ≠ [])
    (h : ∀ word ∈ words, ' ' ∉ word ∧ word ≠ []) :
    readWords ([' '].intercalate words) = words := by
  rw [readWords, List.splitOn_intercalate ' ' (fun word hword => (h word hword).1) hne,
    List.filter_eq_self]
  exact fun word hword => by simpa using (h word hword).2

/-- A comma and a blank between parts are a comma between parts that begin with a blank. -/
theorem intercalate_comma (part : List Char) (parts : List (List Char)) :
    [',', ' '].intercalate (part :: parts) =
      [','].intercalate (part :: parts.map (' ' :: ·)) := by
  induction parts generalizing part with
  | nil => rfl
  | cons next parts ih =>
    rw [List.map_cons, List.intercalate_cons_cons, List.intercalate_cons_cons, ih]
    cases parts with
    | nil => simp
    | cons => simp

section Terms

variable {term : List String} (hwords : ∀ word ∈ term, IsWordText word)
include hwords

/-- The blanks in an item stand between its words. -/
theorem readWords_term (hne : term ≠ []) :
    (readWords (" ".intercalate term).toList).map String.ofList = term := by
  have htext : (" ".intercalate term).toList = [' '].intercalate (term.map String.toList) :=
    String.toList_intercalate
  rw [htext, readWords_join (by simpa using hne), List.map_map]
  · simp [Function.comp_def]
  · intro cs hcs
    obtain ⟨word, hword, rfl⟩ := List.mem_map.1 hcs
    refine ⟨(hwords word hword).not_mem (by decide) (by decide), fun hempty => ?_⟩
    exact (hwords word hword).1 (String.toList_inj.1 hempty)

theorem comma_not_mem_term : ',' ∉ (" ".intercalate term).toList :=
  Text.notMem_intercalate (by decide) fun word hword =>
    (hwords word hword).not_mem (by decide) (by decide)

end Terms

/-- Items that are joined can be read off the text. -/
theorem readTerms_join {terms : List (List String)} (hne : terms ≠ [])
    (hterms : ∀ term ∈ terms, term ≠ [] ∧ ∀ word ∈ term, IsWordText word) :
    readTerms (", ".intercalate (terms.map " ".intercalate)) = terms := by
  obtain ⟨term, terms, rfl⟩ := List.exists_cons_of_ne_nil hne
  have htext : (", ".intercalate ((term :: terms).map " ".intercalate)).toList =
      [','].intercalate ((" ".intercalate term).toList ::
        terms.map fun t => ' ' :: (" ".intercalate t).toList) := by
    rw [String.toList_intercalate, List.map_map, List.map_cons]
    exact (intercalate_comma _ _).trans (by rw [List.map_map]; rfl)
  have hcomma : ∀ part ∈ (" ".intercalate term).toList ::
      terms.map fun t => ' ' :: (" ".intercalate t).toList, ',' ∉ part := by
    intro part hpart
    rcases List.mem_cons.1 hpart with rfl | hpart
    · exact comma_not_mem_term (hterms term List.mem_cons_self).2
    · obtain ⟨t, ht, rfl⟩ := List.mem_map.1 hpart
      rw [List.mem_cons, not_or]
      exact ⟨by decide, comma_not_mem_term (hterms t (List.mem_cons_of_mem _ ht)).2⟩
  have hread : ∀ t ∈ term :: terms,
      (readWords (" ".intercalate t).toList).map String.ofList = t := fun t ht =>
    readWords_term (hterms t ht).2 (hterms t ht).1
  rw [readTerms, htext, List.splitOn_intercalate _ hcomma (List.cons_ne_nil _ _), List.map_cons,
    List.map_map, hread term List.mem_cons_self]
  refine congrArg (term :: ·) ((List.map_congr_left fun t ht => ?_).trans (List.map_id terms))
  rw [Function.comp_apply, readWords_blank]
  exact hread t (List.mem_cons_of_mem _ ht)

/-! ## Clauses -/

/-- Marks by which a text could leave the clause: quotes, a semicolon, parentheses and that of
    placeholders. -/
def marks : List Char := "'\"`;()?".toList

theorem isWord_of_mem_marks {c : Char} (h : c ∈ marks) : Text.isWord c = false := by
  have hnone : marks.all (fun d => !Text.isWord d) = true := by decide
  simpa using List.all_eq_true.1 hnone c h

/-- What the body of an ORDER BY clause is for some items. -/
structure Lists (mapCamelCase : Bool) (text : String) (items : List OrderItem) : Prop where
  /-- Items have a comma and a blank between them, words of an item a blank. -/
  joined : text =
    ", ".intercalate (items.map fun item => " ".intercalate (item.words mapCamelCase))
  /-- Words consist of word characters and points. -/
  words : ∀ item ∈ items, ∀ word ∈ item.words mapCamelCase, IsWordText word
  /-- The words of the items can be read off the text. -/
  read : readTerms text = items.map (OrderItem.words mapCamelCase)
  /-- None of the marks is in the text, and no blank but those between words. -/
  safe : ∀ c ∈ text.toList, c ∉ marks ∧ (Text.isBlank c = true → c = ' ')

/-- What a character of the joined words can be. -/
theorem isWord_of_mem_join {terms : List (List String)}
    (hterms : ∀ term ∈ terms, ∀ word ∈ term, IsWordText word) {c : Char}
    (h : c ∈ (", ".intercalate (terms.map " ".intercalate)).toList) :
    Text.isWord c = true ∨ c ∈ ['.', ',', ' '] := by
  by_contra hother
  rw [not_or, Bool.not_eq_true] at hother
  obtain ⟨hword, hmark⟩ := hother
  simp only [List.mem_cons, List.not_mem_nil, or_false, not_or] at hmark
  obtain ⟨hpoint, hcomma, hblank⟩ := hmark
  refine Text.notMem_intercalate (by simp [hcomma, hblank]) (fun text htext => ?_) h
  obtain ⟨term, hterm, rfl⟩ := List.mem_map.1 htext
  exact Text.notMem_intercalate (by simp [hblank]) fun word hw =>
    (hterms term hterm word hw).not_mem hword hpoint

/-- Neither a mark nor a blank is a word character, and the separators hold no other blank. -/
theorem safe_of_mem_join {terms : List (List String)}
    (hterms : ∀ term ∈ terms, ∀ word ∈ term, IsWordText word) {c : Char}
    (h : c ∈ (", ".intercalate (terms.map " ".intercalate)).toList) :
    c ∉ marks ∧ (Text.isBlank c = true → c = ' ') := by
  rcases isWord_of_mem_join hterms h with hword | hseparator
  · refine ⟨fun hmark => ?_, fun hblank => ?_⟩
    · rw [isWord_of_mem_marks hmark] at hword
      cases hword
    · rw [Text.isWord_of_isBlank hblank] at hword
      cases hword
  · simp only [List.mem_cons, List.not_mem_nil, or_false] at hseparator
    rcases hseparator with rfl | rfl | rfl <;> decide

theorem body_eq_none_iff {mapCamelCase : Bool} {found : List OrderItem} :
    body mapCamelCase found = none ↔ found = [] := by
  unfold body
  split <;> simp_all

theorem body_eq_some_iff {mapCamelCase : Bool} {found : List OrderItem} {text : String} :
    body mapCamelCase found = some text ↔
      found ≠ [] ∧ text =
        ", ".intercalate (found.map fun item => " ".intercalate (item.words mapCamelCase)) := by
  unfold body
  split
  next hnil => simp [hnil]
  next hne =>
    rw [Option.some.injEq, eq_comm, List.map_congr_left fun item _ => item.sql_eq mapCamelCase]
    simp [hne]

theorem lists_of_items {mapCamelCase : Bool} {sort : String} {found : List OrderItem}
    (h : items sort = .ok found) {text : String} (hbody : body mapCamelCase found = some text) :
    Lists mapCamelCase text found := by
  obtain ⟨hne, hjoined⟩ := body_eq_some_iff.1 hbody
  have hwords : ∀ item ∈ found, ∀ word ∈ item.words mapCamelCase, IsWordText word := by
    intro item hitem
    obtain ⟨segment, -, hspells⟩ := exists_spells_of_mem h hitem
    exact hspells.isWordText mapCamelCase
  have hterms : ∀ term ∈ found.map (OrderItem.words mapCamelCase), ∀ word ∈ term,
      IsWordText word := by
    intro term hterm
    obtain ⟨item, hitem, rfl⟩ := List.mem_map.1 hterm
    exact hwords item hitem
  have htext : text =
      ", ".intercalate ((found.map (OrderItem.words mapCamelCase)).map " ".intercalate) := by
    rw [hjoined, List.map_map]
    rfl
  refine ⟨hjoined, hwords, ?_, fun c hc => safe_of_mem_join hterms (htext ▸ hc)⟩
  rw [htext]
  refine readTerms_join (by simpa using hne) fun term hterm => ⟨?_, hterms term hterm⟩
  obtain ⟨item, -, rfl⟩ := List.mem_map.1 hterm
  exact List.cons_ne_nil _ _

/-- A sort expression is refused for its first segment that spells no item, orders nothing if it has
    no segment, and else gives the items that its segments spell, in order. -/
theorem ofSort_lists (mapCamelCase : Bool) (sort : String) :
    (∀ e, ofSort mapCamelCase sort = .error e ↔
      ∃ before segment after, segments sort = before ++ segment :: after ∧
        (∀ s ∈ before, ∃ item, Spells s item) ∧ (∀ item, ¬Spells segment item) ∧
        e = .invalidSort segment) ∧
    (ofSort mapCamelCase sort = .ok none ↔ segments sort = []) ∧
    ∀ text, ofSort mapCamelCase sort = .ok (some text) ↔
      segments sort ≠ [] ∧ ∃ items, List.Forall₂ Spells (segments sort) items ∧
        Lists mapCamelCase text items := by
  refine ⟨fun e => ofSort_eq_error, ?_, fun text => ?_⟩
  · rw [ofSort_eq_ok]
    constructor
    · rintro ⟨found, hfound, hbody⟩
      rw [body_eq_none_iff.1 hbody, items_eq_ok] at hfound
      exact List.forall₂_nil_right_iff.1 hfound
    · intro hnil
      refine ⟨[], items_eq_ok.2 ?_, body_eq_none_iff.2 rfl⟩
      rw [hnil]
      exact .nil
  · rw [ofSort_eq_ok]
    constructor
    · rintro ⟨found, hfound, hbody⟩
      have hspells := items_eq_ok.1 hfound
      refine ⟨fun hnil => ?_, found, hspells, lists_of_items hfound hbody⟩
      rw [hnil, List.forall₂_nil_left_iff] at hspells
      exact (body_eq_some_iff.1 hbody).1 hspells
    · rintro ⟨hne, found, hspells, hlists⟩
      refine ⟨found, items_eq_ok.2 hspells, body_eq_some_iff.2 ⟨fun hnil => hne ?_, hlists.joined⟩⟩
      rw [hnil] at hspells
      exact List.forall₂_nil_right_iff.1 hspells

example : ofSort true " createdAt,DESC;; id " = .ok (some "created_at DESC, id") := by cbv

end OrderBy

end CriteriaSql
