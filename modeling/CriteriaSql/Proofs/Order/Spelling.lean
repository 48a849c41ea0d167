/-
  How a sort expression spells its items. A segment that is read as an item is the item written out
  (`item?_eq_some_iff`), so the items of a sort expression are those that its segments spell, and
  the first segment that spells none is the error (`ofSort_eq_ok`, `ofSort_eq_error`).
-/
import CriteriaSql.Page.OrderBy
import CriteriaSql.Proofs.Outcome
import Mathlib

namespace CriteriaSql

theorem Text.isAsciiWord_of_isAlpha {c : Char} (h : c.isAlpha = true) : isAsciiWord c = true := by
  rw [isAsciiWord, Char.isAlphanum, h]
  rfl

namespace OrderBy

/-! ## Characters -/

/-- The small letter that a character is a case of. -/
def smallLetter (c : Char) : Char := if c = '\u017f' then 's' else c.toLower

theorem eq_longS_iff {c : Char} : c.toNat = 0x17F ↔ c = '\u017f' :=
  ⟨fun h => Char.toNat_inj.1 h, fun h => h ▸ rfl⟩

theorem isCaseOf_iff {letter c : Char} (h : letter ≠ '\u017f') :
    isCaseOf letter c = true ↔ smallLetter c = letter := by
  rw [isCaseOf, Bool.or_eq_true, Bool.and_eq_true, beq_iff_eq, beq_iff_eq, beq_iff_eq,
    eq_longS_iff, smallLetter]
  by_cases hc : c = '\u017f'
  · subst hc
    have hlower : ('\u017f').toLower ≠ letter := Ne.symm h
    simp only [if_true, hlower, false_or, and_true]
    exact eq_comm
  · simp [hc]

/-- A direction is `asc` or `desc` in small letters. -/
theorem isDirection_iff {cs : List Char} :
    isDirection cs = true ↔
      cs.map smallLetter = ['a', 's', 'c'] ∨ cs.map smallLetter = ['d', 'e', 's', 'c'] := by
  unfold isDirection
  split
  next a b c =>
    simp only [Bool.and_eq_true, isCaseOf_iff (by decide : 'a' ≠ '\u017f'),
      isCaseOf_iff (by decide : 's' ≠ '\u017f'), isCaseOf_iff (by decide : 'c' ≠ '\u017f')]
    simp [and_assoc]
  next a b c d =>
    simp only [Bool.and_eq_true, isCaseOf_iff (by decide : 'd' ≠ '\u017f'),
      isCaseOf_iff (by decide : 'e' ≠ '\u017f'), isCaseOf_iff (by decide : 's' ≠ '\u017f'),
      isCaseOf_iff (by decide : 'c' ≠ '\u017f')]
    simp [and_assoc]
  next hthree hfour =>
    simp only [Bool.false_eq_true, false_iff, not_or, List.map_eq_cons_iff, List.map_eq_nil_iff]
    constructor
    · rintro ⟨a, _, rfl, -, b, _, rfl, -, c, _, rfl, -, rfl⟩
      exact hthree a b c rfl
    · rintro ⟨a, _, rfl, -, b, _, rfl, -, c, _, rfl, -, d, _, rfl, -, rfl⟩
      exact hfour a b c d rfl

theorem isWord_of_mem_direction {cs : List Char} (h : isDirection cs = true) :
    ∀ c ∈ cs, Text.isWord c = true := by
  intro c hc
  have hsmall : (smallLetter c).isAlpha = true := by
    have hmem := List.mem_map_of_mem (f := smallLetter) hc
    rcases isDirection_iff.1 h with hcs | hcs
    · rw [hcs] at hmem
      exact List.all_eq_true.1 (by decide : ['a', 's', 'c'].all Char.isAlpha = true) _ hmem
    · rw [hcs] at hmem
      exact List.all_eq_true.1 (by decide : ['d', 'e', 's', 'c'].all Char.isAlpha = true) _ hmem
  by_cases hlong : c = '\u017f'
  · subst hlong
    decide
  · rw [smallLetter, if_neg hlong, Char.isAlpha_toLower_eq_isAlpha] at hsmall
    exact Text.isWord_of_isAsciiWord (Text.isAsciiWord_of_isAlpha hsmall)

theorem isFieldChar_of_isFieldStart {c : Char} (h : isFieldStart c = true) :
    isFieldChar c = true := by
  have hword : Text.isWord c = true := by
    simp only [isFieldStart, Bool.or_eq_true, beq_iff_eq] at h
    rcases h with ((halpha | rfl) | hlong) | hkelvin
    · exact Text.isWord_of_isAsciiWord (Text.isAsciiWord_of_isAlpha halpha)
    · decide
    · rw [eq_longS_iff] at hlong
      subst hlong
      decide
    · have hchar : c = '\u212a' := Char.toNat_inj.1 hkelvin
      subst hchar
      decide +kernel
  rw [isFieldChar, hword]
  rfl

/-! ## Segments -/

/-- Characters that are a field: the first one starts it. -/
def IsField (cs : List Char) : Prop :=
  ∃ c rest, cs = c :: rest ∧ isFieldStart c = true ∧ ∀ d ∈ rest, isFieldChar d = true

/-- A segment that spells an item: the field and, behind a comma, the direction if there is one. -/
structure Spells (segment : String) (item : OrderItem) : Prop where
  eq_append : segment = item.field ++ item.direction.elim "" ("," ++ ·)
  field : IsField item.field.toList
  direction : ∀ d ∈ item.direction, isDirection d.toList = true

theorem itemOfChars?_eq_some_iff {cs field : List Char} {direction : Option (List Char)} :
    itemOfChars? cs = some (field, direction) ↔
      cs = field ++ direction.elim [] (',' :: ·) ∧ IsField field ∧
        ∀ d ∈ direction, isDirection d = true := by
  constructor
  · intro h
    unfold itemOfChars? at h
    split at h
    · cases h
    next c cs =>
      split at h
      next hstart =>
        have hfield : IsField (c :: cs.takeWhile isFieldChar) :=
          ⟨c, _, rfl, hstart, fun d hd => List.mem_takeWhile_imp hd⟩
        have hcut := List.takeWhile_append_dropWhile (p := isFieldChar) (l := cs)
        split at h
        next hrest =>
          cases h
          rw [hrest] at hcut
          exact ⟨congrArg (c :: ·) hcut.symm, hfield, by simp⟩
        next d rest hrest =>
          split at h
          next hdirection =>
            cases h
            rw [hrest, hdirection.1] at hcut
            exact ⟨congrArg (c :: ·) hcut.symm, hfield, by simpa using hdirection.2⟩
          · cases h
      · cases h
  · rintro ⟨rfl, ⟨c, rest, rfl, hstart, hrest⟩, hdirection⟩
    rw [itemOfChars?.eq_def]
    simp only [List.cons_append, hstart, if_true]
    rw [List.dropWhile_append_of_pos hrest, List.takeWhile_append_of_pos hrest]
    cases direction with
    | none => simp
    | some d =>
      have hcomma : isFieldChar ',' = false := by decide
      simp [hcomma, hdirection d rfl]

/-- A segment is read as the item that it spells. -/
theorem item?_eq_some_iff {segment : String} {item : OrderItem} :
    item? segment = some item ↔ Spells segment item := by
  have hspells (field : List Char) (direction : Option (List Char)) :
      Spells segment ⟨String.ofList field, direction.map String.ofList⟩ ↔
        itemOfChars? segment.toList = some (field, direction) := by
    rw [itemOfChars?_eq_some_iff]
    constructor
    · rintro ⟨hsegment, hfield, hdirection⟩
      refine ⟨?_, by simpa using hfield, by simpa using hdirection⟩
      rw [hsegment, String.toList_append]
      cases direction <;> simp
    · rintro ⟨hsegment, hfield, hdirection⟩
      refine ⟨?_, by simpa using hfield, by simpa using hdirection⟩
      rw [← String.toList_inj, hsegment, String.toList_append]
      cases direction <;> simp
  unfold item?
  rw [Option.map_eq_some_iff]
  constructor
  · rintro ⟨⟨field, direction⟩, hread, rfl⟩
    exact (hspells field direction).2 hread
  · intro h
    refine ⟨(item.field.toList, item.direction.map String.toList), (hspells _ _).1 ?_, ?_⟩
    · simpa [Function.comp_def] using h
    · simp [Function.comp_def]

/-! ## Sort expressions -/

/-- Reads one segment, or refuses it. -/
def readSegment (segment : String) : Except Error OrderItem :=
  (item? segment).elim (.error (.invalidSort segment)) .ok

theorem readSegment_eq_ok {segment : String} {item : OrderItem} :
    readSegment segment = .ok item ↔ Spells segment item := by
  rw [← item?_eq_some_iff, readSegment]
  cases item? segment <;> simp

theorem readSegment_eq_error {segment : String} {e : Error} :
    readSegment segment = .error e ↔
      (∀ item, ¬Spells segment item) ∧ e = .invalidSort segment := by
  simp only [← item?_eq_some_iff, readSegment]
  cases item? segment <;> simp [eq_comm]

theorem items_eq (sort : String) : items sort = (segments sort).mapM readSegment := by
  refine mapM_congr fun segment _ => ?_
  rw [readSegment]
  cases item? segment <;> rfl

theorem items_eq_ok {sort : String} {found : List OrderItem} :
    items sort = .ok found ↔ List.Forall₂ Spells (segments sort) found := by
  simp only [items_eq, mapM_eq_ok, readSegment_eq_ok]

theorem exists_spells_of_mem {sort : String} {found : List OrderItem} (h : items sort = .ok found)
    {item : OrderItem} (hitem : item ∈ found) : ∃ segment ∈ segments sort, Spells segment item := by
  rw [items_eq] at h
  obtain ⟨segment, hsegment, hread⟩ := exists_of_mem_mapM h hitem
  exact ⟨segment, hsegment, readSegment_eq_ok.1 hread⟩

/-- The items as texts, joined by a comma and a blank; none at all is no text. -/
def body (mapCamelCase : Bool) (found : List OrderItem) : Option String :=
  if found = [] then none
  else some (", ".intercalate (found.map (OrderItem.sql mapCamelCase)))

theorem ofSort_eq (mapCamelCase : Bool) (sort : String) :
    ofSort mapCamelCase sort = (items sort).map (body mapCamelCase) := by
  unfold ofSort body
  cases items sort with
  | error e => rfl
  | ok found => cases found <;> rfl

theorem ofSort_eq_ok {mapCamelCase : Bool} {sort : String} {result : Option String} :
    ofSort mapCamelCase sort = .ok result ↔
      ∃ found, items sort = .ok found ∧ body mapCamelCase found = result := by
  rw [ofSort_eq, map_eq_ok]

/-- The first segment that spells no item is the error. -/
theorem ofSort_eq_error {mapCamelCase : Bool} {sort : String} {e : Error} :
    ofSort mapCamelCase sort = .error e ↔
      ∃ before segment after, segments sort = before ++ segment :: after ∧
        (∀ s ∈ before, ∃ item, Spells s item) ∧ (∀ item, ¬Spells segment item) ∧
        e = .invalidSort segment := by
  rw [ofSort_eq, map_eq_error, items_eq, mapM_eq_error]
  simp only [readSegment_eq_ok, readSegment_eq_error]

end OrderBy

end CriteriaSql
