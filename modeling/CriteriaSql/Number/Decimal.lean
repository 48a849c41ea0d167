/-
  Decimal numerals: the fewest digits that read back as a given double, and the double or single
  nearest to a numeral.
-/
import CriteriaSql.Number.Binary

namespace CriteriaSql

/-- The number `digits · 10 ^ exponent`. -/
structure Decimal where
  digits : Nat
  exponent : Int
  deriving DecidableEq, Repr

namespace Decimal

/-! ## The fewest digits -/

/-- The exponent of the highest decimal digit of `num / den`, both positive. -/
def floorLog10 (num den : Nat) : Int :=
  if den ≤ num then ((Nat.toDigits 10 (num / den)).length : Int) - 1
  else
    let places := (Nat.toDigits 10 (den / num)).length
    if den = num * tenTo (places - 1) then 1 - (places : Int) else - (places : Int)

/-- The numbers that round to one double: those between `lower / den` and `upper / den`, ends
    included or not. The double itself is `value / den`. -/
structure Interval where
  lower : Nat
  value : Nat
  upper : Nat
  den : Nat
  closed : Bool

/-- The numbers that round to `m · 2 ^ e`. Below a power of two the next number is nearer, so the
    interval reaches down half as far, unless the power is the least one. -/
def Interval.around (m : Nat) (e : Int) : Interval :=
  let f := BinaryFormat.double
  let scale := twoTo (e - 2).toNat
  let narrow := m = twoTo f.fractionBits ∧ f.leastExponent < e
  { lower := (4 * m - if narrow then 1 else 2) * scale
    value := 4 * m * scale
    upper := (4 * m + 2) * scale
    den := twoTo (2 - e).toNat
    closed := m % 2 == 0 }

/-- Whether `x / y` rounds to the double. -/
def Interval.holds (i : Interval) (x y : Nat) : Bool :=
  if i.closed then i.lower * y ≤ x * i.den && x * i.den ≤ i.upper * y
  else i.lower * y < x * i.den && x * i.den < i.upper * y

/-- On the grid of multiples of `10 ^ p`: the multiple in the interval that is nearest to the
    double, the even one of two that are equally near. -/
def Interval.onGrid? (i : Interval) (p : Int) : Option Nat :=
  let step := tenTo p.toNat
  let parts := tenTo (-p).toNat
  let below := i.value * parts / (step * i.den)
  let above := below + 1
  let downward := i.value * parts - below * step * i.den
  let upward := above * step * i.den - i.value * parts
  match i.holds (below * step) parts, i.holds (above * step) parts with
  | true, true =>
    if downward < upward then some below
    else if upward < downward then some above
    else some (below + below % 2)
  | true, false => some below
  | false, true => some above
  | false, false => none

/-- The first grid with a hit, from `10 ^ p` on and at most `finer` grids further. -/
def Interval.coarsest (i : Interval) : Nat → Int → Decimal
  | 0, p => ⟨i.value * tenTo (-p).toNat / (tenTo p.toNat * i.den), p⟩
  | finer + 1, p =>
    match i.onGrid? p with
    | some digits => ⟨digits, p⟩
    | none => i.coarsest finer (p - 1)

/-- The decimal with the fewest digits that reads back as `m · 2 ^ e`, the nearest of those. -/
def shortest (m : Nat) (e : Int) : Decimal :=
  let i := Interval.around m e
  i.coarsest 17 (floorLog10 i.value i.den)

/-! ## The text of a double -/

/-- A number is written with a point, at least one digit on both sides of it, as long as the point
    stands at most sixteen digits to the right of the first digit and at most four zeros to the
    left of it; otherwise as one digit, the rest behind a point, and the exponent with its sign. -/
def text (d : Decimal) : String :=
  let all := Nat.toDigits 10 d.digits
  let kept := (all.reverse.dropWhile (· == '0')).reverse
  let exponent := d.exponent + ((all.length - kept.length : Nat) : Int)
  let point : Int := kept.length + exponent
  if 0 ≤ exponent ∧ point ≤ 16 then
    String.ofList (kept ++ List.replicate exponent.toNat '0' ++ ['.', '0'])
  else if 0 < point ∧ point ≤ 16 then
    String.ofList (kept.take point.toNat ++ '.' :: kept.drop point.toNat)
  else if -5 < point ∧ point ≤ 0 then
    String.ofList ('0' :: '.' :: List.replicate (-point).toNat '0' ++ kept)
  else
    let fractional := if kept.length = 1 then [] else '.' :: kept.drop 1
    let mark := if 0 < point then "e+" else "e-"
    String.ofList (kept.take 1 ++ fractional) ++ mark ++ toString (point - 1).natAbs

end Decimal

/-- The text of a finite double: the fewest digits that read back as it. -/
def Double.text (d : Double) : String :=
  let (m, e) := d.magnitude
  let size := if m = 0 then "0.0" else (Decimal.shortest m e).text
  if d.isNegative then "-" ++ size else size

/-! ## Numerals -/

/-- What the text of a number says. -/
inductive Numeral
  | finite (negative : Bool) (size : Decimal)
  | infinite (negative : Bool)
  | notANumber
  deriving DecidableEq, Repr

namespace Numeral

/-- The number that decimal digits write. -/
def digitsValue (cs : List Char) : Nat := cs.foldl (fun n c => n * 10 + (c.toNat - '0'.toNat)) 0

/-- A decimal exponent: nothing, or `e`, a sign and digits. -/
def exponent? : List Char → Option Int
  | [] => some 0
  | mark :: cs =>
    if mark = 'e' ∨ mark = 'E' then
      let (negative, ds) :=
        match cs with
        | '-' :: ds => (true, ds)
        | '+' :: ds => (false, ds)
        | ds => (false, ds)
      if ds.isEmpty || !ds.all Char.isDigit then none
      else
        let n : Int := digitsValue ds
        some (if negative then -n else n)
    else none

/-- Digits with at most one point among them, at least one digit, and an exponent. -/
def size? (cs : List Char) : Option Decimal :=
  let whole := cs.takeWhile Char.isDigit
  let rest := cs.dropWhile Char.isDigit
  let (places, rest) :=
    match rest with
    | '.' :: rest => (rest.takeWhile Char.isDigit, rest.dropWhile Char.isDigit)
    | rest => ([], rest)
  if whole.isEmpty && places.isEmpty then none
  else
    (exponent? rest).map fun e => ⟨digitsValue (whole ++ places), e - places.length⟩

/-- Reads a numeral: a sign, then digits or a word for infinity or for no number. -/
def ofText? (s : String) : Option Numeral :=
  let (negative, cs) :=
    match s.toList with
    | '-' :: cs => (true, cs)
    | '+' :: cs => (false, cs)
    | cs => (false, cs)
  let small := cs.map Char.toLower
  if small = "inf".toList ∨ small = "infinity".toList then some (.infinite negative)
  else if small = "nan".toList then some .notANumber
  else (size? cs).map (.finite negative)

/-- The word of a format nearest to the number. Numbers far beyond every format are settled by
    their number of digits alone. -/
def word (f : BinaryFormat) : Numeral → Nat
  | .notANumber => f.infinity + twoTo (f.fractionBits - 1)
  | .infinite negative => (if negative then f.signBit else 0) + f.infinity
  | .finite negative size =>
    let top := (Nat.toDigits 10 size.digits).length + size.exponent
    let magnitude :=
      if size.digits = 0 ∨ top < -400 then 0
      else if 400 < top then f.infinity
      else f.nearest (size.digits * tenTo size.exponent.toNat) (tenTo (-size.exponent).toNat)
    (if negative then f.signBit else 0) + magnitude

/-- The double nearest to the number. -/
def toDouble (n : Numeral) : Double := ⟨UInt64.ofNat (n.word .double)⟩

/-- The single nearest to the number. -/
def toSingle (n : Numeral) : Single := ⟨UInt32.ofNat (n.word .single)⟩

end Numeral

end CriteriaSql
