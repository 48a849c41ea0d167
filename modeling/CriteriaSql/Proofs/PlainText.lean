/-
  Plain texts: those without a placeholder. Names, columns, formats, operators, numbers, sort
  expressions and the text of a page clause put no placeholder into a statement, unless the texts
  that they are made of hold one.
-/
import Mathlib.Data.List.TakeWhile
import CriteriaSql.FieldName
import CriteriaSql.Page.Basic
import CriteriaSql.Proofs.Outcome
import CriteriaSql.Schema.Path

namespace CriteriaSql

/-! ## Texts -/

/-- A text without a placeholder. -/
def Text.Plain (s : String) : Prop := '?' ∉ s.toList

instance : DecidablePred Text.Plain := fun s => inferInstanceAs (Decidable ('?' ∉ s.toList))

namespace Text

theorem plain_iff_countChar {s : String} : Plain s ↔ countChar '?' s = 0 := by
  rw [Plain, countChar, List.count_eq_zero]

@[simp] theorem plain_append {s t : String} : Plain (s ++ t) ↔ Plain s ∧ Plain t := by
  simp [Plain, String.toList_append]

@[simp] theorem plain_ofList {cs : List Char} : Plain (String.ofList cs) ↔ '?' ∉ cs := by
  simp [Plain]

theorem plain_of_forall {s : String} {p : Char → Bool} (hp : p '?' = false)
    (h : ∀ c ∈ s.toList, p c = true) : Plain s := by
  intro hm
  have := h _ hm
  rw [hp] at this
  cases this

theorem plain_join {texts : List String} (h : ∀ t ∈ texts, Plain t) :
    Plain (String.join texts) := by
  rw [Plain, String.toList_join, List.mem_flatMap]
  rintro ⟨t, ht, hm⟩
  exact h t ht hm

theorem notMem_intercalate {c : Char} {separator : String} {texts : List String}
    (hs : c ∉ separator.toList) (h : ∀ t ∈ texts, c ∉ t.toList) :
    c ∉ (separator.intercalate texts).toList := by
  induction texts with
  | nil => simp
  | cons t texts ih =>
    by_cases hne : texts = []
    · subst hne
      rw [String.intercalate_singleton]
      exact h t List.mem_cons_self
    · rw [String.intercalate_cons_of_ne_nil hne, String.toList_append, String.toList_append,
        List.mem_append, List.mem_append, not_or, not_or]
      exact ⟨⟨h t List.mem_cons_self, hs⟩, ih fun u hu => h u (List.mem_cons_of_mem _ hu)⟩

theorem plain_intercalate {separator : String} {texts : List String} (hs : Plain separator)
    (h : ∀ t ∈ texts, Plain t) : Plain (separator.intercalate texts) :=
  notMem_intercalate hs h

@[simp] theorem plain_repr (n : Nat) : Plain n.repr := by
  refine plain_of_forall (p := Char.isDigit) (by decide) fun c hc => ?_
  rw [Nat.toList_repr] at hc
  exact Nat.isDigit_of_mem_toDigits (by decide) (by decide) hc

theorem mem_of_mem_trimChars {c : Char} {cs : List Char} (h : c ∈ trimChars cs) : c ∈ cs := by
  rw [trimChars, List.mem_reverse] at h
  have := (List.dropWhile_sublist _).subset h
  rw [List.mem_reverse] at this
  exact (List.dropWhile_sublist _).subset this

theorem plain_trim {s : String} (h : Plain s) : Plain (trim s) := by
  rw [trim, plain_ofList]
  exact fun hm => h (mem_of_mem_trimChars hm)

/-! ## Letters -/

theorem eq_of_toLower_eq_mark {c : Char} (h : c.toLower = '?') : c = '?' := by
  unfold Char.toLower at h
  split at h
  next hc =>
    have hle : c.val.toNat ≤ 90 := hc.2
    have hv : (c.val + 32).toNat = 63 := congrArg (fun d : Char => d.val.toNat) h
    have hadd : (c.val + 32).toNat = (c.val.toNat + 32) % 4294967296 := UInt32.toNat_add _ _
    have hge : 65 ≤ c.val.toNat := hc.1
    omega
  next => exact h

theorem toNat_ofNat_ne_mark {n : Nat} (h : 64 ≤ n) : Char.ofNat n ≠ '?' := by
  by_cases hv : n.isValidChar
  · have hchar : Char.ofNat n = Char.ofNatAux n hv := dif_pos hv
    intro he
    have : n = 63 := congrArg Char.toNat (hchar.symm.trans he)
    omega
  · have hchar : Char.ofNat n = ⟨0, by decide⟩ := dif_neg hv
    rw [hchar]
    decide

/-- No run of letters leads down to the placeholder. -/
theorem least_lowercaseRuns : ∀ r ∈ lowercaseRuns, (64 : Int) ≤ r.first + r.shift := by
  decide +kernel

theorem eq_of_mark_mem_lowercase {c : Char} (h : '?' ∈ lowercase c) : c = '?' := by
  unfold lowercase at h
  split at h
  · exact eq_of_toLower_eq_mark (List.mem_singleton.1 h).symm
  split at h
  · exact absurd h (by decide)
  split at h
  next r hr =>
    have hle := least_lowercaseRuns r (List.mem_of_find?_eq_some hr)
    have hfirst := List.find?_some hr
    simp only [CaseRun.holds, Bool.and_eq_true, decide_eq_true_eq] at hfirst
    exact absurd (List.mem_singleton.1 h).symm (toNat_ofNat_ne_mark (by omega))
  next => exact (List.mem_singleton.1 h).symm

end Text

open Text (Plain)

/-! ## Columns and formats -/

theorem Naming.plain_column {mapCamelCase : Bool} {name : String} (h : Plain name) :
    Plain (Naming.column mapCamelCase name) := by
  unfold Naming.column
  split
  · rw [Naming.snake, Text.plain_ofList, Naming.snakeChars, List.mem_flatMap]
    rintro ⟨c, hc, hm⟩
    split at hm
    · rcases List.mem_cons.1 hm with hm | hm
      · exact absurd hm (by decide)
      · exact h (Text.eq_of_toLower_eq_mark (List.mem_singleton.1 hm).symm ▸ hc)
    · exact h (List.mem_singleton.1 hm ▸ hc)
  · exact h

theorem Naming.notMem_fillChars {x : Char} {format : List Char} {args : List (List Char)}
    (hf : x ∉ format) (ha : ∀ arg ∈ args, x ∉ arg) : x ∉ fillChars format args := by
  fun_induction fillChars format args with
  | case1 => exact hf
  | case2 => exact hf
  | case3 c d rest _ ih => exact ih (by simp_all) (by simp)
  | case4 c d rest _ arg args ih =>
    rw [List.mem_append, not_or]
    exact ⟨ha arg List.mem_cons_self,
      ih (by simp_all) fun a h => ha a (List.mem_cons_of_mem _ h)⟩
  | case5 c d rest args _ ih =>
    rw [List.mem_cons, not_or]
    exact ⟨by simp_all, ih (by simp_all) ha⟩

theorem Naming.notMem_fill {x : Char} {format : String} {args : List String}
    (hf : x ∉ format.toList) (ha : ∀ arg ∈ args, x ∉ arg.toList) :
    x ∉ (Naming.fill format args).toList := by
  rw [Naming.fill, String.toList_ofList]
  refine Naming.notMem_fillChars hf fun arg h => ?_
  obtain ⟨a, hm, rfl⟩ := List.mem_map.1 h
  exact ha a hm

theorem Naming.plain_fill {format : String} {args : List String} (hf : Plain format)
    (ha : ∀ arg ∈ args, Plain arg) : Plain (Naming.fill format args) :=
  Naming.notMem_fill hf ha

/-- Formats without placeholders. -/
structure Settings.Plain (s : Settings) : Prop where
  table : Text.Plain s.tableFormat
  joinTable : Text.Plain s.joinTableFormat
  joinId : Text.Plain s.joinIdFormat

namespace Settings.Plain

variable {s : Settings} (hs : s.Plain) {domain left right : String}
include hs

theorem plain_table (h : Text.Plain domain) : Text.Plain (s.table domain) :=
  Naming.plain_fill hs.table (by simpa using h)

theorem plain_joinTable (hl : Text.Plain left) (hr : Text.Plain right) :
    Text.Plain (s.joinTable left right) :=
  Naming.plain_fill hs.joinTable (by simp [hl, hr])

theorem plain_joinId (h : Text.Plain domain) : Text.Plain (s.joinId domain) :=
  Naming.plain_fill hs.joinId (by simpa using h)

end Settings.Plain

/-! ## Operators and members -/

theorem Operator.plain_sql (op : Operator) : Plain op.sql := by
  cases op <;> decide

theorem Operator.plain_ofName {name : String} (h : Plain name) :
    Plain (Operator.ofName name).1 := by
  rw [Operator.ofName, Text.plain_ofList]
  intro hm
  apply h
  rw [← Operator.ofChars_append name.toList]
  exact List.mem_append_left _ hm

theorem FieldName.mark_not_mem_uncapitalizeChars {cs : List Char} (h : '?' ∉ cs) :
    '?' ∉ uncapitalizeChars cs := by
  cases cs with
  | nil => exact h
  | cons c cs =>
    rw [uncapitalizeChars, List.mem_append]
    rintro (hm | hm)
    · exact h (Text.eq_of_mark_mem_lowercase hm ▸ List.mem_cons_self)
    · exact h (List.mem_cons_of_mem _ hm)

theorem FieldName.mem_of_mem_tailParts {c : Char} {cs : List Char} :
    (c ∈ (tailParts cs).1 ∨ ∃ p ∈ (tailParts cs).2, c ∈ p) → c ∈ cs := by
  intro h
  rw [← tailParts_join cs, List.mem_append, List.mem_flatMap]
  rcases h with h | ⟨p, hp, h⟩
  · exact Or.inl h
  · exact Or.inr ⟨p, hp, List.mem_cons_of_mem _ (List.mem_cons_of_mem _ h)⟩

theorem FieldName.mem_of_mem_spelledParts {c : Char} {name part : List Char}
    (hp : part ∈ spelledParts name) (hc : c ∈ part) : c ∈ name := by
  cases name with
  | nil => simp_all [spelledParts]
  | cons d cs =>
    simp only [spelledParts, consPart, List.mem_cons] at hp
    rcases hp with rfl | hp
    · rcases List.mem_cons.1 hc with rfl | hc
      · exact List.mem_cons_self
      · exact List.mem_cons_of_mem _ (mem_of_mem_tailParts (Or.inl hc))
    · exact List.mem_cons_of_mem _ (mem_of_mem_tailParts (Or.inr ⟨part, hp, hc⟩))

theorem FieldName.plain_alternatives {name part : String} (h : Plain name)
    (hp : part ∈ alternatives name) : Plain part := by
  have key : ∀ p ∈ spelledParts name.toList, '?' ∉ p :=
    fun p hp hm => h (mem_of_mem_spelledParts hp hm)
  unfold alternatives at hp
  split at hp
  · cases hp
  next first rest heq =>
    rw [heq] at key
    rcases List.mem_cons.1 hp with rfl | hp
    · exact Text.plain_ofList.2 (key first List.mem_cons_self)
    · obtain ⟨p, hm, rfl⟩ := List.mem_map.1 hp
      exact Text.plain_ofList.2
        (mark_not_mem_uncapitalizeChars (key p (List.mem_cons_of_mem _ hm)))

theorem FieldName.plain_members {name : String} (h : Plain name) {m : Member}
    (hm : m ∈ members name) : Plain m.base := by
  obtain ⟨own, ho, rfl⟩ := List.mem_map.1 hm
  obtain ⟨part, hp, rfl⟩ := List.mem_map.1 ho
  have hb : Plain (Operator.ofName part).1 := Operator.plain_ofName (plain_alternatives h hp)
  dsimp only
  split
  · exact hb
  · exact hb

/-! ## Domains and sort expressions -/

theorem isWord_of_isDomainName {name : String} (h : isDomainName name = true) :
    ∀ c ∈ name.toList, Text.isWord c = true := by
  unfold isDomainName at h
  split at h
  · cases h
  next first rest heq =>
    rw [Bool.and_eq_true, List.all_eq_true] at h
    rw [heq]
    intro c hc
    rcases List.mem_cons.1 hc with rfl | hc
    · refine Text.isWord_of_isAsciiWord ?_
      have hfirst := h.1
      rw [Bool.or_eq_true] at hfirst
      rw [Text.isAsciiWord, Bool.or_eq_true, Char.isAlphanum, Bool.or_eq_true]
      exact hfirst.imp_left Or.inl
    · exact h.2 c hc

theorem plain_of_isDomainName {name : String} (h : isDomainName name = true) : Plain name :=
  Text.plain_of_forall (by decide) (isWord_of_isDomainName h)

namespace OrderBy

theorem mark_not_mem_direction {cs : List Char} (h : isDirection cs = true) : '?' ∉ cs := by
  unfold isDirection at h
  split at h
  next a b c =>
    simp only [Bool.and_eq_true] at h
    obtain ⟨⟨ha, hb⟩, hc⟩ := h
    rintro hm
    simp only [List.mem_cons, List.not_mem_nil, or_false] at hm
    rcases hm with rfl | rfl | rfl
    · exact absurd ha (by decide)
    · exact absurd hb (by decide)
    · exact absurd hc (by decide)
  next a b c d =>
    simp only [Bool.and_eq_true] at h
    obtain ⟨⟨⟨ha, hb⟩, hc⟩, hd⟩ := h
    rintro hm
    simp only [List.mem_cons, List.not_mem_nil, or_false] at hm
    rcases hm with rfl | rfl | rfl | rfl
    · exact absurd ha (by decide)
    · exact absurd hb (by decide)
    · exact absurd hc (by decide)
    · exact absurd hd (by decide)
  next => cases h

theorem mark_not_mem_field {c : Char} {cs : List Char} (h : isFieldStart c = true) :
    '?' ∉ c :: cs.takeWhile isFieldChar := by
  rw [List.mem_cons, not_or]
  refine ⟨fun hc => ?_, fun hm => ?_⟩
  · rw [← hc] at h
    exact absurd h (by decide)
  · exact absurd (List.mem_takeWhile_imp hm) (by decide : ¬isFieldChar '?' = true)

theorem mark_not_mem_itemOfChars? {cs field : List Char} {direction : Option (List Char)}
    (h : itemOfChars? cs = some (field, direction)) :
    '?' ∉ field ∧ ∀ d ∈ direction, '?' ∉ d := by
  unfold itemOfChars? at h
  split at h
  · cases h
  next c cs =>
    split at h
    next hc =>
      split at h
      · cases h
        exact ⟨mark_not_mem_field hc, by simp⟩
      next d rest _ =>
        split at h
        next hd =>
          cases h
          exact ⟨mark_not_mem_field hc, by simpa using mark_not_mem_direction hd.2⟩
        · cases h
    · cases h

theorem plain_sql_of_item? {segment : String} {item : OrderItem} (h : item? segment = some item)
    (mapCamelCase : Bool) : Plain (item.sql mapCamelCase) := by
  obtain ⟨⟨field, direction⟩, hc, rfl⟩ := Option.map_eq_some_iff.1 h
  obtain ⟨hf, hd⟩ := mark_not_mem_itemOfChars? hc
  have hcol : Plain (Naming.column mapCamelCase (String.ofList field)) :=
    Naming.plain_column (Text.plain_ofList.2 hf)
  cases direction with
  | none => exact hcol
  | some d =>
    simp only [OrderItem.sql, Option.map_some, Text.plain_append, Text.plain_ofList]
    exact ⟨⟨hcol, by decide⟩, hd d rfl⟩

theorem plain_ofSort {mapCamelCase : Bool} {sort body : String}
    (h : ofSort mapCamelCase sort = .ok (some body)) : Plain body := by
  obtain ⟨found, hi, h⟩ := bind_eq_ok.1 h
  split at h
  · simp at h
  · rw [pure_eq_ok, Option.some.injEq] at h
    subst h
    refine Text.plain_intercalate (by decide) fun t ht => ?_
    obtain ⟨item, hm, rfl⟩ := List.mem_map.1 ht
    obtain ⟨segment, -, hs⟩ := exists_of_mem_mapM hi hm
    split at hs
    next found heq =>
      cases hs
      exact plain_sql_of_item? heq mapCamelCase
    · cases hs

end OrderBy

theorem Page.plain_orderBy {p : Page} {mapCamelCase : Bool} {body : String}
    (h : p.orderBy mapCamelCase = .ok (some body)) : Plain body := by
  unfold Page.orderBy at h
  split at h
  · exact OrderBy.plain_ofSort h
  · cases h

end CriteriaSql
