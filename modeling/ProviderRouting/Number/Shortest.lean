import ProviderRouting.Number.Binary64

/-!
# Shortest decimals

The shortest decimal of a double is the one with the fewest digits among those that round to it,
and of these the nearest to it, an exact tie going up.  A double `mantissa * 2 ^ exponent` is the
nearest double to every point between the halfway marks to its neighbours, the marks themselves
included when the mantissa is even.  The search tries one digit, then two, and so on; on each grid
only the two points around the double can be nearest to it.
-/

namespace ProviderRouting

/-- The number `digits * 10 ^ exponent`. -/
structure Decimal where
  /-- The significant digits, read as a whole number. -/
  digits : Nat
  /-- The power of ten. -/
  exponent : Int
deriving DecidableEq, Inhabited

namespace Decimal

/-- The digits that do not end in zero, with the power of ten they leave; `fuel` bounds the number
of zeros dropped. -/
def dropZeros : (fuel : Nat) → Decimal → Decimal
  | 0, decimal => decimal
  | fuel + 1, decimal =>
    if decimal.digits ≠ 0 ∧ decimal.digits % 10 = 0 then
      dropZeros fuel ⟨decimal.digits / 10, decimal.exponent + 1⟩
    else decimal

end Decimal

/-- The points that round to one double, over a common denominator. -/
structure RoundingRange where
  /-- The numerator of the double itself. -/
  value : Nat
  /-- The numerator of the lower halfway mark. -/
  low : Nat
  /-- The numerator of the upper halfway mark. -/
  high : Nat
  /-- The denominator. -/
  denominator : Nat
  /-- Whether the marks themselves round to the double. -/
  closed : Bool

namespace RoundingRange

/-- A power that is one for exponents below zero. -/
def power (base : Nat) (exponent : Int) : Nat := base.pow exponent.toNat

/-- The range of the double `mantissa * 2 ^ exponent`.  Below the smallest mantissa of a binade the
doubles stand twice as close, so the lower mark is at a quarter and not at half of the step. -/
def ofParts (mantissa : Nat) (exponent : Int) : RoundingRange :=
  let below := if mantissa = Binary64.hiddenBit ∧ exponent ≠ -1074 then 1 else 2
  let scale := power 2 (exponent - 2)
  { value := 4 * mantissa * scale
    low := (4 * mantissa - below) * scale
    high := (4 * mantissa + 2) * scale
    denominator := power 2 (2 - exponent)
    closed := mantissa % 2 = 0 }

/-- Whether the point `digits * 10 ^ exponent` lies in the range. -/
def contains (range : RoundingRange) (point : Decimal) : Bool :=
  let scaled := point.digits * power 10 point.exponent * range.denominator
  let shift := power 10 (-point.exponent)
  if range.closed then range.low * shift ≤ scaled ∧ scaled ≤ range.high * shift
  else range.low * shift < scaled ∧ scaled < range.high * shift

/-- The point of the grid of `10 ^ exponent` at or below the double. -/
def gridFloor (range : RoundingRange) (exponent : Int) : Nat :=
  range.value * power 10 (-exponent) / (range.denominator * power 10 exponent)

/-- Twice the distance from the double to the grid point at or below it, less the grid step, has
this sign: whether the point above is at least as near. -/
def upperNearer (range : RoundingRange) (exponent : Int) : Bool :=
  let step := range.denominator * power 10 exponent
  let scaled := range.value * power 10 (-exponent)
  step ≤ 2 * (scaled % step)

/-- The better of the two grid points around the double, if one of them is in the range. -/
def onGrid (range : RoundingRange) (exponent : Int) : Option Decimal :=
  let lower : Decimal := ⟨range.gridFloor exponent, exponent⟩
  let upper : Decimal := ⟨range.gridFloor exponent + 1, exponent⟩
  match range.contains lower && lower.digits != 0, range.contains upper with
  | true, true => some (if range.upperNearer exponent then upper else lower)
  | true, false => some lower
  | false, true => some upper
  | false, false => none

/-- The first grid with a point in the range, trying `fuel` grids, each ten times finer. -/
def search (range : RoundingRange) : (fuel : Nat) → (exponent : Int) → Decimal
  | 0, exponent => ⟨range.gridFloor exponent, exponent⟩
  | fuel + 1, exponent =>
    match range.onGrid exponent with
    | some point => point
    | none => search range fuel (exponent - 1)

/-- The power of ten of the leading digit of `numerator / denominator`, which is not zero. -/
def leadingPower (numerator denominator : Nat) : Int :=
  if denominator ≤ numerator then
    ((Nat.toDigits 10 (numerator / denominator)).length : Int) - 1
  else
    -((Nat.toDigits 10 ((denominator - 1) / numerator)).length : Int)

end RoundingRange

/-- The shortest decimal of the double `mantissa * 2 ^ exponent` with a nonzero mantissa. -/
def Decimal.shortest (mantissa : Nat) (exponent : Int) : Decimal :=
  let range := RoundingRange.ofParts mantissa exponent
  (range.search 17 (RoundingRange.leadingPower range.value range.denominator)).dropZeros 400

end ProviderRouting
