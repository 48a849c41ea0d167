/-
  The operator that a name asks for. A name may end in the suffixes of several operators; then the
  shorter ones are endings of the longer ones, and as no suffix is tried before one that ends in it,
  the longest is found that leaves a base (`ofName_longest`). A name that is made of a base and a
  suffix is therefore read as that base and that suffix, unless the end of the base is the beginning
  of a longer suffix. Only `Not` is such an end, before `In` and before `Null`.
-/
import CriteriaSql.Operator
import Mathlib

namespace CriteriaSql.Operator

/-! ## Suffixes -/

theorem mem_suffixed {op : Operator} (h : op ≠ eq) : op ∈ suffixed := by
  cases op with
  | eq => exact absurd rfl h
  | _ => decide

/-- No suffix is tried before one that ends in it. -/
theorem suffixed_pairwise :
    suffixed.Pairwise fun earlier later => ¬earlier.suffix.toList <:+ later.suffix.toList := by
  decide

/-- A suffix that ends in another one is that one with `Not` before it. -/
theorem eq_or_extends {op other : Operator} (hop : op ≠ eq)
    (h : op.suffix.toList <:+ other.suffix.toList) :
    other = op ∨
      (op = oneOf ∨ op = isNull) ∧ other.suffix.toList = "Not".toList ++ op.suffix.toList := by
  revert hop h
  cases op <;> cases other <;> decide

theorem exists_extends {op : Operator} (h : op = oneOf ∨ op = isNull) :
    ∃ other : Operator, other.suffix.toList = "Not".toList ++ op.suffix.toList := by
  rcases h with rfl | rfl
  · exact ⟨noneOf, by decide⟩
  · exact ⟨notNull, by decide⟩

/-! ## Readings -/

/-- The name is the base with the operator's suffix behind it, and the base is not empty. -/
structure Reads (name base : List Char) (op : Operator) : Prop where
  append : base ++ op.suffix.toList = name
  ne_nil : base ≠ []

variable {name base base' : List Char} {op other : Operator}

theorem Reads.suffix (h : Reads name base op) : op.suffix.toList <:+ name := ⟨base, h.append⟩

/-- Of two suffixes of a name the shorter one is an ending of the other. -/
theorem Reads.suffix_of_length_le (h : Reads name base op) (h' : Reads name base' other)
    (hle : op.suffix.toList.length ≤ other.suffix.toList.length) :
    op.suffix.toList <:+ other.suffix.toList :=
  List.suffix_of_suffix_length_le h.suffix h'.suffix hle

theorem base?_eq_some_iff_reads {found : Operator} :
    base? name op = some (base, found) ↔ found = op ∧ Reads name base op := by
  rw [base?_eq_some_iff]
  constructor
  · rintro ⟨hfound, hne, hname⟩
    exact ⟨hfound, hname.symm, hne⟩
  · rintro ⟨hfound, happend, hne⟩
    exact ⟨hfound, hne, happend.symm⟩

/-- The base that is found for a name that is not empty. -/
theorem ofChars_reads (h : name ≠ []) : Reads name (ofChars name).1 (ofChars name).2 := by
  refine ⟨ofChars_append name, ?_⟩
  unfold ofChars
  cases hfound : suffixed.findSome? (base? name) with
  | none => exact h
  | some found =>
    obtain ⟨op, -, hop⟩ := List.exists_of_findSome?_eq_some hfound
    exact (base?_eq_some_iff_reads.1 hop).2.ne_nil

/-- No other reading of the name has a longer suffix. -/
theorem Reads.length_le (h : Reads name base op) :
    op.suffix.toList.length ≤ (ofChars name).2.suffix.toList.length := by
  by_cases hop : op = eq
  · rw [hop]
    exact Nat.zero_le _
  have hmem := mem_suffixed hop
  have hbase : base? name op = some (base, op) := base?_eq_some_iff_reads.2 ⟨rfl, h⟩
  unfold ofChars
  cases hfound : suffixed.findSome? (base? name) with
  | none =>
    rw [List.findSome?_eq_none_iff.1 hfound op hmem] at hbase
    cases hbase
  | some found =>
    obtain ⟨base', found⟩ := found
    obtain ⟨before, first, after, hsplit, hfirst, hbefore⟩ := List.findSome?_eq_some_iff.1 hfound
    obtain ⟨rfl, hreads⟩ := base?_eq_some_iff_reads.1 hfirst
    rw [hsplit, List.mem_append, List.mem_cons] at hmem
    rcases hmem with hmem | rfl | hmem
    · rw [hbefore op hmem] at hbase
      cases hbase
    · exact Nat.le_refl _
    · -- tried later: were it longer, the one that was found would be an ending of it
      by_contra hlonger
      have hending := hreads.suffix_of_length_le h (Nat.le_of_not_le hlonger)
      have horder := suffixed_pairwise
      rw [hsplit, List.pairwise_append, List.pairwise_cons] at horder
      exact horder.2.1.1 op hmem hending

/-- A base and a suffix are found again unless the base ends in the `Not` of a longer suffix. -/
theorem ofChars_eq_iff (hne : base ≠ []) (hop : op ≠ eq) :
    ofChars (base ++ op.suffix.toList) = (base, op) ↔
      ¬((op = oneOf ∨ op = isNull) ∧ ∃ start ≠ [], base = start ++ "Not".toList) := by
  have hown : Reads (base ++ op.suffix.toList) base op := ⟨rfl, hne⟩
  constructor
  · rintro hread ⟨hnegated, start, hstart, hbase⟩
    obtain ⟨other, hother⟩ := exists_extends hnegated
    have hlonger : Reads (base ++ op.suffix.toList) start other :=
      ⟨by rw [hother, hbase, List.append_assoc], hstart⟩
    have hle : other.suffix.toList.length ≤ op.suffix.toList.length := by
      have hlongest := hlonger.length_le
      rwa [hread] at hlongest
    rw [hother, List.length_append] at hle
    have hnot : "Not".toList.length = 3 := rfl
    omega
  · intro hplain
    have hname : base ++ op.suffix.toList ≠ [] := List.append_ne_nil_of_left_ne_nil hne _
    have hfound := ofChars_reads hname
    rcases eq_or_extends hop (hown.suffix_of_length_le hfound hown.length_le) with
      hsame | ⟨hnegated, hextends⟩
    · have happend := hfound.append
      rw [hsame] at happend
      exact Prod.ext (List.append_cancel_right happend) hsame
    · refine absurd ⟨hnegated, _, hfound.ne_nil, ?_⟩ hplain
      have happend := hfound.append
      rw [hextends, ← List.append_assoc] at happend
      exact (List.append_cancel_right happend).symm

/-! ## Names -/

theorem toList_fst_ofName (name : String) : (ofName name).1.toList = (ofChars name.toList).1 :=
  String.toList_ofList

theorem snd_ofName (name : String) : (ofName name).2 = (ofChars name.toList).2 := rfl

theorem ofName_eq_iff {name base : String} :
    ofName name = (base, op) ↔ ofChars name.toList = (base.toList, op) := by
  rw [Prod.ext_iff, Prod.ext_iff, ← toList_fst_ofName, ← snd_ofName, String.toList_inj]

/-- The suffix that is found is the longest of all suffixes that leave a base; a base and a suffix
    are found in the name that is made of them, unless they are the end of a longer suffix. -/
theorem ofName_longest :
    (∀ name : String,
      (ofName name).1 ++ (ofName name).2.suffix = name ∧
      (name ≠ "" → (ofName name).1 ≠ "") ∧
      ∀ (base : String) (op : Operator), base ≠ "" → base ++ op.suffix = name →
        op.suffix.length ≤ (ofName name).2.suffix.length) ∧
    ∀ (base : String) (op : Operator), base ≠ "" → op ≠ eq →
      (ofName (base ++ op.suffix) = (base, op) ↔
        ¬((op = oneOf ∨ op = isNull) ∧ ∃ start : String, start ≠ "" ∧ base = start ++ "Not")) := by
  have hempty (s : String) : s ≠ "" ↔ s.toList ≠ [] := String.toList_eq_nil_iff.not.symm
  refine ⟨fun name => ⟨?_, fun hne => ?_, fun base op hbase hname => ?_⟩,
    fun base op hbase hop => ?_⟩
  · rw [← String.toList_inj, String.toList_append, toList_fst_ofName, snd_ofName]
    exact ofChars_append name.toList
  · rw [hempty, toList_fst_ofName]
    exact (ofChars_reads ((hempty name).1 hne)).ne_nil
  · rw [← String.length_toList, ← String.length_toList, snd_ofName]
    have happend : base.toList ++ op.suffix.toList = name.toList := by
      rw [← String.toList_append, hname]
    exact Reads.length_le ⟨happend, (hempty base).1 hbase⟩
  · rw [ofName_eq_iff, String.toList_append, ofChars_eq_iff ((hempty base).1 hbase) hop]
    refine not_congr (and_congr_right fun _ => ?_)
    constructor
    · rintro ⟨start, hstart, heq⟩
      refine ⟨String.ofList start, (hempty _).2 ?_, String.toList_inj.1 ?_⟩
      · rwa [String.toList_ofList]
      · simp [heq]
    · rintro ⟨start, hstart, rfl⟩
      exact ⟨start.toList, (hempty start).1 hstart, String.toList_append⟩

/-- `In` is a suffix only where something stands before it. -/
example : ofName "roleIdNotIn" = ("roleId", noneOf) ∧ ofName "NotIn" = ("Not", oneOf) ∧
    ofName "In" = ("In", eq) := by
  refine ⟨?_, ?_, ?_⟩ <;> cbv

end CriteriaSql.Operator
