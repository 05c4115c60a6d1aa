import ProviderRouting.Document.Basic
import ProviderRouting.Number.Binary64
import ProviderRouting.Text.Numeral

/-!
# Numbers in JSON

A number is read in two steps: its written parts, and their value.  A number without fraction and
exponent is whole if it fits 64 bits.  Any other number is a double: of the digits those count that
fit a 64-bit significand, and the double of the significand is multiplied or divided once by a
power of ten.  A double out of range stands for nothing.
-/

namespace ProviderRouting.Json

/-- The written parts of a number. -/
structure WrittenNumber where
  /-- Whether a minus sign stands in front. -/
  negative : Bool
  /-- The digits before the point. -/
  whole : List Nat
  /-- The digits after the point, none if there is no point. -/
  fraction : List Nat
  /-- The exponent, if there is one. -/
  exponent : Option Int
  /-- Whether there is a point or an exponent. -/
  fractional : Bool

/-- The digits at the start of a text, and what follows them. -/
def spanDigits : List Char → List Nat × List Char
  | [] => ([], [])
  | letter :: rest =>
    match Text.digit? letter with
    | some digit =>
      let (digits, after) := spanDigits rest
      (digit :: digits, after)
    | none => ([], letter :: rest)

/-- The number that decimal digits write. -/
def ofDigits (digits : List Nat) : Nat := digits.foldl (fun total digit => total * 10 + digit) 0

/-- The digits before the point.  A zero in front stands alone. -/
def scanWhole (letters : List Char) : Option (List Nat × List Char) :=
  match spanDigits letters with
  | ([], _) => none
  | (0 :: _ :: _, _) => none
  | parts => some parts

/-- The digits after the point, if there is a point. -/
def scanFraction : List Char → Option (Option (List Nat) × List Char)
  | '.' :: letters =>
    match spanDigits letters with
    | ([], _) => none
    | (digits, rest) => some (some digits, rest)
  | letters => some (none, letters)

/-- The digits of an exponent after its sign. -/
def scanExponentDigits (negative : Bool) (letters : List Char) : Option (Int × List Char) :=
  match spanDigits letters with
  | ([], _) => none
  | (digits, rest) =>
    let size : Int := ofDigits digits
    some (if negative then -size else size, rest)

/-- The exponent, if there is one. -/
def scanExponent : List Char → Option (Option Int × List Char)
  | letter :: letters =>
    if letter = 'e' ∨ letter = 'E' then
      let scanned := match letters with
        | '+' :: rest => scanExponentDigits false rest
        | '-' :: rest => scanExponentDigits true rest
        | rest => scanExponentDigits false rest
      scanned.map fun (exponent, rest) => (some exponent, rest)
    else some (none, letter :: letters)
  | [] => some (none, [])

/-- The parts of the number at the start of a text. -/
def scanNumber (letters : List Char) : Option (WrittenNumber × List Char) := do
  let (negative, letters) := match letters with
    | '-' :: rest => (true, rest)
    | letters => (false, letters)
  let (whole, letters) ← scanWhole letters
  let (fraction, letters) ← scanFraction letters
  let (exponent, letters) ← scanExponent letters
  return (⟨negative, whole, fraction.getD [], exponent, fraction.isSome || exponent.isSome⟩,
    letters)

/-- Take digits into a significand while it fits 64 bits; the rest of them is left over. -/
def absorb : (significand : Nat) → List Nat → Nat × List Nat
  | significand, [] => (significand, [])
  | significand, digit :: rest =>
    let next := significand * 10 + digit
    if next < UInt64.size then absorb next rest else (significand, digit :: rest)

/-- The power of ten as a double. -/
def powerOfTen (exponent : Nat) : Float := Float.ofScientific 1 false exponent

/-- A double times a power of ten, unless that is out of range.  Powers up to `1e308` are applied
at once, larger divisors in steps. -/
def scale (value : Float) (exponent : Int) : Option Float :=
  if exponent.natAbs ≤ 308 then
    if 0 ≤ exponent then
      let scaled := value * powerOfTen exponent.natAbs
      if scaled.isInf then none else some scaled
    else some (value / powerOfTen exponent.natAbs)
  else if value == 0.0 then some value
  else if 0 ≤ exponent then none
  else scale (value / powerOfTen 308) (exponent + 308)
termination_by exponent.natAbs
decreasing_by omega

namespace WrittenNumber

/-- The number as a double. -/
def toFloat (number : WrittenNumber) : Option Float := do
  let (significand, dropped) := absorb 0 number.whole
  let (significand, ignored) := absorb significand number.fraction
  let taken := number.fraction.length - ignored.length
  let exponent : Int := (dropped.length : Int) - taken + number.exponent.getD 0
  let size ← scale (Binary64.ofNat significand) exponent
  return if number.negative then -size else size

/-- Whether a number written without fraction and exponent is taken as a whole number. -/
def isWhole (number : WrittenNumber) : Bool :=
  let size := ofDigits number.whole
  !number.fractional
    && if number.negative then 0 < size && size ≤ UInt64.size / 2 else size < UInt64.size

/-- The value of a number. -/
def value (number : WrittenNumber) : Document :=
  if number.isWhole then
    let size : Int := ofDigits number.whole
    .integer (if number.negative then -size else size)
  else
    match number.toFloat with
    | some value => .float value
    | none => .unusable

end WrittenNumber

end ProviderRouting.Json
