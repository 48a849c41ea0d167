/-
  Integers are read by value. What can be bound is an integer of sixty-four bits, signed or not, and
  it is read as the same scalar through every type that holds it, whether or not it may be missing.
  One type is the exception: of the signed integers of 128 bits none beyond the signed ones of
  sixty-four bits is read, although the unsigned types of both widths read them up to the largest
  one of sixty-four bits (`int_read_alike_iff`).
-/
import CriteriaSql.Value.Record
import Mathlib

namespace CriteriaSql

/-! ## Types -/

namespace IntType

/-- The signed integers of 128 bits. -/
def signed128 : IntType := ⟨true, .w128⟩

/-- Whether an integer is read as a scalar through a type that holds it. -/
def Carries (type : IntType) (n : Int) : Prop :=
  (-(2 ^ 63) ≤ n ∧ n ≤ 2 ^ 64 - 1) ∧ (n < 2 ^ 63 ∨ type ≠ signed128)

/-- Why an integer is not read. -/
def outOfRange (type : IntType) : Unsupported :=
  if type.signed then .signedRange else .unsignedRange

variable {type : IntType} {n : Int}

theorem holds_iff : type.holds n = true ↔ type.least ≤ n ∧ n ≤ type.greatest := by
  rw [holds, Bool.and_eq_true, decide_eq_true_iff, decide_eq_true_iff]

/-- Up to sixty-four bits a type has only integers that it carries. -/
theorem carries_of_narrow (h : type.holds n = true) (hwidth : type.width ≠ .w128) :
    type.Carries n := by
  obtain ⟨signed, width⟩ := type
  have hother : (⟨signed, width⟩ : IntType) ≠ signed128 := by
    rintro ⟨⟩
    exact hwidth rfl
  refine ⟨?_, Or.inr hother⟩
  rw [holds_iff] at h
  cases signed <;> cases width <;>
    simp [least, greatest, twoTo, Width.bits] at h hwidth ⊢ <;> omega

/-- With 128 bits a type carries what the type of sixty-four bits and the same sign holds. -/
theorem carries_iff_bindable (h : type.holds n = true) (hwidth : type.width = .w128) :
    type.Carries n ↔ type.bindable.holds n = true := by
  obtain ⟨signed, width⟩ := type
  obtain rfl : width = .w128 := hwidth
  rw [holds_iff] at h ⊢
  cases signed <;>
    simp [Carries, signed128, bindable, least, greatest, twoTo, Width.bits] at h ⊢ <;> omega

/-- Only one type has integers below the signed ones of sixty-four bits. -/
theorem eq_signed128_of_lt (h : type.holds n = true) (hn : n < -(2 ^ 63)) :
    type = signed128 := by
  obtain ⟨signed, width⟩ := type
  rw [holds_iff] at h
  cases signed <;> cases width <;>
    simp [signed128, least, greatest, twoTo, Width.bits] at h hn ⊢ <;> omega

/-- Only one signed type has integers beyond the signed ones of sixty-four bits. -/
theorem signed_iff_of_le (h : type.holds n = true) (hn : 2 ^ 63 ≤ n) :
    type.signed = true ↔ type = signed128 := by
  obtain ⟨signed, width⟩ := type
  rw [holds_iff] at h
  cases signed <;> cases width <;>
    simp [signed128, least, greatest, twoTo, Width.bits] at h hn ⊢ <;> omega

end IntType

/-! ## Readings -/

namespace Datum

/-- A value that presents an integer of a type: the integer by itself, or as one that may be missing
    or under a type name of its own. -/
inductive Presents (type : IntType) (n : Int) : Datum → Prop
  | int : Presents type n (.int type n)
  | present {d : Datum} (h : Presents type n d) : Presents type n (.present d)
  | wrapped {d : Datum} (h : Presents type n d) : Presents type n (.wrapped d)

variable {type type' : IntType} {n : Int} {d d' : Datum}

theorem readInt_of_carries (h : type.holds n = true) (hn : type.Carries n) :
    readInt type n = .ok (.scalar (.int n)) := by
  unfold readInt
  split
  next hwidth => rw [if_pos ((IntType.carries_iff_bindable h hwidth).1 hn)]
  · rfl

theorem readInt_of_not_carries (h : type.holds n = true) (hn : ¬type.Carries n) :
    readInt type n = .error (.unsupported type.outOfRange) := by
  unfold readInt
  split
  next hwidth => rw [if_neg (mt (IntType.carries_iff_bindable h hwidth).2 hn)]; rfl
  next hwidth => exact absurd (IntType.carries_of_narrow h hwidth) hn

/-- Neither the state of the reader nor what stands around an integer matters to its reading. -/
theorem Presents.read_eq (h : Presents type n d) (optional : Bool) :
    d.read optional = readInt type n := by
  induction h generalizing optional with
  | int => rfl
  | present _ ih => exact ih true
  | wrapped _ ih => exact ih optional

theorem Presents.read_eq_ok_iff (h : Presents type n d) (hn : type.holds n = true)
    {optional : Bool} {value : FieldValue} :
    d.read optional = .ok value ↔ type.Carries n ∧ value = .scalar (.int n) := by
  rw [h.read_eq]
  by_cases hc : type.Carries n
  · rw [readInt_of_carries hn hc, Except.ok.injEq, eq_comm, and_iff_right hc]
  · rw [readInt_of_not_carries hn hc]
    simp [hc]

/-- Below the integers that only unsigned types of sixty-four bits hold, the type does not matter.
    -/
theorem readInt_of_lt (hn : type.holds n = true) (hn' : type'.holds n = true) (hlow : n < 2 ^ 63) :
    readInt type n = readInt type' n := by
  by_cases hleast : n < -(2 ^ 63)
  · rw [IntType.eq_signed128_of_lt hn hleast, IntType.eq_signed128_of_lt hn' hleast]
  · have hcarries (t : IntType) : t.Carries n := ⟨by omega, Or.inl hlow⟩
    rw [readInt_of_carries hn (hcarries type), readInt_of_carries hn' (hcarries type')]

/-- Beyond them the signed type of 128 bits refuses what the unsigned types read, and refuses
    what they refuse as well in words of its own. -/
theorem readInt_of_le (hn : type.holds n = true) (hhigh : 2 ^ 63 ≤ n) :
    readInt type n =
      if type = .signed128 then .error (.unsupported .signedRange)
      else if n ≤ 2 ^ 64 - 1 then .ok (.scalar (.int n))
      else .error (.unsupported .unsignedRange) := by
  have hsigned := IntType.signed_iff_of_le hn hhigh
  have hcarries : type.Carries n ↔ n ≤ 2 ^ 64 - 1 ∧ type ≠ .signed128 := by
    unfold IntType.Carries
    constructor
    · rintro ⟨⟨-, hmost⟩, hlow | hother⟩
      · omega
      · exact ⟨hmost, hother⟩
    · rintro ⟨hmost, hother⟩
      exact ⟨⟨by omega, hmost⟩, Or.inr hother⟩
  split
  next htype =>
    rw [readInt_of_not_carries hn fun h => (hcarries.1 h).2 htype, IntType.outOfRange,
      if_pos (hsigned.2 htype)]
  next htype =>
    split
    next hmost => exact readInt_of_carries hn (hcarries.2 ⟨hmost, htype⟩)
    next hmost =>
      rw [readInt_of_not_carries hn fun h => hmost (hcarries.1 h).1, IntType.outOfRange,
        if_neg fun h => htype (hsigned.1 h)]

/-- An integer is read alike through two types that hold it, except where it is beyond the signed
    integers of sixty-four bits and just one of the two is the signed type of 128 bits. Through one
    of them it is a scalar if it has a place within sixty-four bits, with the same exception, and
    nothing else is ever read of it. -/
theorem int_read_alike_iff (hn : type.holds n = true) (hn' : type'.holds n = true)
    (hd : Presents type n d) (hd' : Presents type' n d') (optional optional' : Bool) :
    (d.read optional = d'.read optional' ↔
      n < 2 ^ 63 ∨ (type = .signed128 ↔ type' = .signed128)) ∧
    (d.read optional = .ok (.scalar (.int n)) ↔
      (-(2 ^ 63) ≤ n ∧ n ≤ 2 ^ 64 - 1) ∧ (n < 2 ^ 63 ∨ type ≠ .signed128)) ∧
    ∀ value, d.read optional = .ok value → value = .scalar (.int n) := by
  rw [hd.read_eq, hd'.read_eq]
  refine ⟨?_, ?_, fun value hvalue => ?_⟩
  · rcases lt_or_ge n (2 ^ 63) with hlow | hhigh
    · exact iff_of_true (readInt_of_lt hn hn' hlow) (Or.inl hlow)
    · rw [readInt_of_le hn hhigh, readInt_of_le hn' hhigh, or_iff_right hhigh.not_gt]
      generalize hread : (if n ≤ 2 ^ 64 - 1 then .ok (.scalar (.int n))
        else .error (.unsupported .unsignedRange) : Except ReadFailure FieldValue) = unsigned
      have hunsigned : unsigned ≠ .error (.unsupported .signedRange) := by
        rw [← hread]
        split <;> simp
      by_cases htype : type = .signed128 <;> by_cases htype' : type' = .signed128 <;>
        simp [htype, htype', hunsigned, hunsigned.symm]
  · rw [← hd.read_eq optional, hd.read_eq_ok_iff hn]
    exact and_iff_left rfl
  · rw [← hd.read_eq optional, hd.read_eq_ok_iff hn] at hvalue
    exact hvalue.2

/-- The largest signed integer of sixty-four bits, as one that may be missing and by itself. -/
theorem int_read_alike_largest :
    let n : Int := 2 ^ 63 - 1
    IntType.signed128.holds n = true ∧ IntType.holds ⟨false, .w64⟩ n = true ∧
      (Datum.present (.int .signed128 n)).read false = (Datum.int ⟨false, .w64⟩ n).read false ∧
      (Datum.present (.int .signed128 n)).read false = .ok (.scalar (.int n)) := by
  intro n
  have hsigned : IntType.signed128.holds n = true := by decide
  have hunsigned : IntType.holds ⟨false, .w64⟩ n = true := by decide
  obtain ⟨halike, hscalar, -⟩ :=
    int_read_alike_iff hsigned hunsigned (.present .int) .int false false
  exact ⟨hsigned, hunsigned, halike.2 (Or.inl (by decide)),
    hscalar.2 ⟨by decide, Or.inl (by decide)⟩⟩

/-- The integer after it is a scalar through both unsigned types, and refused through the signed
    one of 128 bits. -/
theorem int_read_differ_next :
    let n : Int := 2 ^ 63
    IntType.signed128.holds n = true ∧ IntType.holds ⟨false, .w64⟩ n = true ∧
      IntType.holds ⟨false, .w128⟩ n = true ∧
      (Datum.int ⟨false, .w64⟩ n).read false = .ok (.scalar (.int n)) ∧
      (Datum.int ⟨false, .w128⟩ n).read false = .ok (.scalar (.int n)) ∧
      (Datum.int .signed128 n).read false = .error (.unsupported .signedRange) :=
  ⟨by decide, by decide, by decide, rfl, rfl, rfl⟩

end Datum

end CriteriaSql
