/-
  Letters outside of ASCII in an order. Letters are accepted without regard to case, and two ASCII
  letters have a case outside of ASCII: the long s and the kelvin sign. So a direction may hold a
  long s, and a field may start with either of them; an item that is accepted is regular exactly
  where neither is so (`ofSort_regular_iff`).
-/
import CriteriaSql.Proofs.Order.Clause

namespace CriteriaSql

namespace OrderItem

/-- The direction is `asc` or `desc` up to the case of ASCII letters, and the field starts with an
    ASCII letter or an underscore. -/
structure Regular (item : OrderItem) : Prop where
  direction : ∀ d ∈ item.direction, d.toLower = "asc" ∨ d.toLower = "desc"
  field : ∃ c ∈ item.field.toList.head?, c.isAlpha = true ∨ c = '_'

/-- The long s is in the direction, or it or the kelvin sign starts the field. -/
def HasForeignLetter (item : OrderItem) : Prop :=
  (∃ d ∈ item.direction, '\u017f' ∈ d.toList) ∨
    ∃ c ∈ item.field.toList.head?, c = '\u017f' ∨ c = '\u212a'

end OrderItem

namespace OrderBy

/-! ## Directions and fields -/

theorem toLower_eq_iff {d word : String} :
    d.toLower = word ↔ d.toList.map Char.toLower = word.toList := by
  rw [← String.toList_inj, String.toLower, String.toList_map]

/-- An accepted direction is a keyword of ASCII letters unless it holds the long s. -/
theorem direction_regular_iff {d : String} (h : isDirection d.toList = true) :
    d.toLower = "asc" ∨ d.toLower = "desc" ↔ '\u017f' ∉ d.toList := by
  rw [toLower_eq_iff, toLower_eq_iff]
  constructor
  · intro hkeyword hlong
    have hmem : '\u017f' ∈ d.toList.map Char.toLower :=
      List.mem_map_of_mem (f := Char.toLower) hlong
    rcases hkeyword with hkeyword | hkeyword
    · rw [hkeyword] at hmem
      exact absurd hmem (by decide)
    · rw [hkeyword] at hmem
      exact absurd hmem (by decide)
  · intro hlong
    have hsmall : d.toList.map smallLetter = d.toList.map Char.toLower :=
      List.map_congr_left fun c hc => if_neg (ne_of_mem_of_not_mem hc hlong)
    rw [← hsmall]
    exact isDirection_iff.1 h

/-- What starts a field is an ASCII letter or an underscore unless it is one of the two letters
    outside of ASCII. -/
theorem fieldStart_regular_iff {c : Char} (h : isFieldStart c = true) :
    (c.isAlpha = true ∨ c = '_') ↔ ¬(c = '\u017f' ∨ c = '\u212a') := by
  simp only [isFieldStart, Bool.or_eq_true, beq_iff_eq] at h
  constructor
  · rintro hregular (rfl | rfl)
    · exact absurd hregular (by decide)
    · exact absurd hregular (by decide)
  · intro hforeign
    rcases h with (hregular | hlong) | hkelvin
    · exact hregular
    · exact absurd (Or.inl (Char.toNat_inj.1 hlong)) hforeign
    · exact absurd (Or.inr (Char.toNat_inj.1 hkelvin)) hforeign

theorem Spells.regular_iff {segment : String} {item : OrderItem} (h : Spells segment item) :
    item.Regular ↔ ¬item.HasForeignLetter := by
  obtain ⟨c, rest, hfield, hstart, -⟩ := h.field
  have hhead : item.field.toList.head? = some c := by
    rw [hfield]
    rfl
  have hdirections : (∀ d ∈ item.direction, d.toLower = "asc" ∨ d.toLower = "desc") ↔
      ∀ d ∈ item.direction, '\u017f' ∉ d.toList :=
    forall₂_congr fun d hd => direction_regular_iff (h.direction d hd)
  rw [OrderItem.HasForeignLetter, not_or, hhead]
  simp only [Option.mem_some_iff, exists_eq_left', ← fieldStart_regular_iff hstart, not_exists,
    not_and, ← hdirections]
  constructor
  · rintro ⟨hdirection, hregular⟩
    rw [hhead] at hregular
    exact ⟨hdirection, by simpa using hregular⟩
  · rintro ⟨hdirection, hregular⟩
    exact ⟨hdirection, c, hhead, hregular⟩

/-! ## Orders -/

/-- The items of an accepted order are regular but for those with a letter outside of ASCII. -/
theorem ofSort_regular_iff {mapCamelCase : Bool} {sort text : String}
    (h : ofSort mapCamelCase sort = .ok (some text)) :
    ∃ items, List.Forall₂ Spells (segments sort) items ∧ Lists mapCamelCase text items ∧
      ∀ item ∈ items, item.Regular ↔ ¬item.HasForeignLetter := by
  obtain ⟨found, hfound, hbody⟩ := ofSort_eq_ok.1 h
  refine ⟨found, items_eq_ok.1 hfound, lists_of_items hfound hbody, fun item hitem => ?_⟩
  obtain ⟨segment, -, hspells⟩ := exists_spells_of_mem hfound hitem
  exact hspells.regular_iff

theorem ofSort_regular_newest :
    ofSort false "created,DESC;_id" = .ok (some "created DESC, _id") ∧
      ∃ items, List.Forall₂ Spells ["created,DESC", "_id"] items ∧
        Lists false "created DESC, _id" items ∧
        ∀ item ∈ items, item.Regular ↔ ¬item.HasForeignLetter := by
  have hsort : ofSort false "created,DESC;_id" = .ok (some "created DESC, _id") := by cbv
  have hsegments : segments "created,DESC;_id" = ["created,DESC", "_id"] := by cbv
  exact ⟨hsort, hsegments ▸ ofSort_regular_iff hsort⟩

/-- A direction with a long s is accepted and written into the clause as it is, and so is a field
    that starts with the kelvin sign. -/
theorem ofSort_longS :
    ofSort false "id,a\u017fc;\u212aey" = .ok (some "id a\u017fc, \u212aey") ∧
      items "id,a\u017fc;\u212aey" = .ok [⟨"id", some "a\u017fc"⟩, ⟨"\u212aey", none⟩] ∧
      ¬OrderItem.Regular ⟨"id", some "a\u017fc"⟩ ∧ ¬OrderItem.Regular ⟨"\u212aey", none⟩ := by
  refine ⟨by cbv, by cbv, fun hregular => ?_, fun hregular => ?_⟩
  · have hkeyword := hregular.direction _ rfl
    rw [toLower_eq_iff, toLower_eq_iff] at hkeyword
    exact absurd hkeyword (by decide)
  · obtain ⟨c, hc, hstart⟩ := hregular.field
    cases hc
    exact absurd hstart (by decide)

end OrderBy

end CriteriaSql
