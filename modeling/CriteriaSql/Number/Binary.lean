/-
  Binary floating point: the two formats a value may come in, the number a word stands for, and
  the word nearest to a ratio. All arithmetic is exact, on natural numbers.
-/

namespace CriteriaSql

/-! ## Powers -/

/-- Two to the power of `n`. -/
def twoTo (n : Nat) : Nat := Nat.pow 2 n

/-- Ten to the power of `n`. -/
def tenTo (n : Nat) : Nat := Nat.pow 10 n

/-! ## Formats -/

/-- The widths of a binary format: a sign bit, the exponent field, the fraction field. -/
structure BinaryFormat where
  exponentBits : Nat
  fractionBits : Nat

namespace BinaryFormat

/-- Sixty-four bits. -/
def double : BinaryFormat := ⟨11, 52⟩

/-- Thirty-two bits. -/
def single : BinaryFormat := ⟨8, 23⟩

/-- The field of an infinity or of what is not a number. -/
def specialField (f : BinaryFormat) : Nat := twoTo f.exponentBits - 1

/-- The exponent of the last bit of the smallest numbers. -/
def leastExponent (f : BinaryFormat) : Int :=
  2 - (twoTo (f.exponentBits - 1) : Int) - f.fractionBits

/-- The word of infinity, without its sign. -/
def infinity (f : BinaryFormat) : Nat := f.specialField * twoTo f.fractionBits

/-- The word of the sign alone. -/
def signBit (f : BinaryFormat) : Nat := twoTo (f.exponentBits + f.fractionBits)

/-- A word whose sign bit is set. -/
def isNegative (f : BinaryFormat) (word : Nat) : Bool := f.signBit ≤ word

/-- The field between sign and fraction. -/
def exponentField (f : BinaryFormat) (word : Nat) : Nat :=
  word / twoTo f.fractionBits % twoTo f.exponentBits

/-- The lowest bits of a word. -/
def fraction (f : BinaryFormat) (word : Nat) : Nat := word % twoTo f.fractionBits

/-- A word that stands for a number, and not for an infinity or for no number at all. -/
def isFinite (f : BinaryFormat) (word : Nat) : Bool := f.exponentField word != f.specialField

/-- The magnitude of a finite word as `significand · 2 ^ exponent`. -/
def magnitude (f : BinaryFormat) (word : Nat) : Nat × Int :=
  let field := f.exponentField word
  if field = 0 then (f.fraction word, f.leastExponent)
  else (f.fraction word + twoTo f.fractionBits, f.leastExponent + field - 1)

/-! ## Rounding -/

/-- The quotient rounded to the nearest whole number, a half to the even one. -/
def roundHalfEven (num den : Nat) : Nat :=
  let quotient := num / den
  let rest := num % den
  if 2 * rest < den then quotient
  else if den < 2 * rest then quotient + 1
  else quotient + quotient % 2

/-- The exponent of the highest binary digit of `num / den`. -/
def floorLog2 (num den : Nat) : Int :=
  let guess : Int := (num.log2 : Int) - den.log2
  if num * twoTo (-guess).toNat < den * twoTo guess.toNat then guess - 1 else guess

/-- The word nearest to `num / den`, without a sign; infinity where the ratio is too large. -/
def nearest (f : BinaryFormat) (num den : Nat) : Nat :=
  if num = 0 then 0
  else
    let exponent := max (floorLog2 num den - f.fractionBits) f.leastExponent
    let units := roundHalfEven (num * twoTo (-exponent).toNat) (den * twoTo exponent.toNat)
    min f.infinity (units + (exponent - f.leastExponent).toNat * twoTo f.fractionBits)

end BinaryFormat

/-! ## Numbers -/

/-- A number of sixty-four bits. -/
structure Double where
  bits : UInt64
  deriving DecidableEq, Repr

namespace Double

/-- A number, and not an infinity or no number at all. -/
def isFinite (d : Double) : Bool := BinaryFormat.double.isFinite d.bits.toNat

/-- A number with its sign set; minus zero is one. -/
def isNegative (d : Double) : Bool := BinaryFormat.double.isNegative d.bits.toNat

/-- The magnitude of a finite number as `significand · 2 ^ exponent`. -/
def magnitude (d : Double) : Nat × Int := BinaryFormat.double.magnitude d.bits.toNat

end Double

/-- A number of thirty-two bits. -/
structure Single where
  bits : UInt32
  deriving DecidableEq, Repr

namespace Single

/-- The same number in sixty-four bits. -/
def widen (s : Single) : Double :=
  let f := BinaryFormat.single
  let g := BinaryFormat.double
  let word := s.bits.toNat
  let sign := if f.isNegative word then g.signBit else 0
  let size :=
    if f.isFinite word then
      let (m, e) := f.magnitude word
      g.nearest (m * twoTo e.toNat) (twoTo (-e).toNat)
    else g.infinity + f.fraction word * twoTo (g.fractionBits - f.fractionBits)
  ⟨UInt64.ofNat (sign + size)⟩

end Single

end CriteriaSql
