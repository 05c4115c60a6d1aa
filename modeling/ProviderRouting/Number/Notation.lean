import ProviderRouting.Number.Binary64
import ProviderRouting.Number.Shortest

/-!
# Written doubles

Doubles are written with their shortest digits.  Two styles are in use: messages and exports write
every number positionally and drop a zero fraction; inspection texts keep the fraction and write
numbers from `1e16` on and below `1e-4` with an exponent.
-/

namespace ProviderRouting

/-- How doubles are written. -/
structure NumberStyle where
  /-- Whether a whole number is written with `.0`. -/
  keepsFraction : Bool
  /-- Whether very large and very small numbers are written with an exponent. -/
  usesExponent : Bool

namespace NumberStyle

/-- Positional without a zero fraction, for messages and exports. -/
def plain : NumberStyle := ⟨false, false⟩

/-- With a fraction or an exponent, for inspection. -/
def inspect : NumberStyle := ⟨true, true⟩

/-- A run of zeros. -/
def zeros (count : Nat) : String := String.ofList (List.replicate count '0')

/-- Digits with the point after the first one and an exponent. -/
def scientific (decimal : Decimal) : String :=
  match Nat.toDigits 10 decimal.digits with
  | [] => ""
  | first :: rest =>
    let power := decimal.exponent + rest.length
    let fraction := if rest.isEmpty then "" else "." ++ String.ofList rest
    first.toString ++ fraction ++ "e" ++ toString power

/-- Digits with the point at its place. -/
def positional (style : NumberStyle) (decimal : Decimal) : String :=
  let digits := Nat.toDigits 10 decimal.digits
  if 0 ≤ decimal.exponent then
    String.ofList digits ++ zeros decimal.exponent.toNat
      ++ (if style.keepsFraction then ".0" else "")
  else
    let places := (-decimal.exponent).toNat
    if places < digits.length then
      String.ofList (digits.take (digits.length - places)) ++ "."
        ++ String.ofList (digits.drop (digits.length - places))
    else
      "0." ++ zeros (places - digits.length) ++ String.ofList digits

/-- The text of a nonzero decimal. -/
def writeDecimal (style : NumberStyle) (decimal : Decimal) : String :=
  let power := decimal.exponent + ((Nat.toDigits 10 decimal.digits).length : Int) - 1
  if style.usesExponent && (16 ≤ power || power < -4) then scientific decimal
  else style.positional decimal

/-- The text of a double. -/
def write (style : NumberStyle) (value : Float) : String :=
  match Binary64.read value with
  | .nan => "NaN"
  | .infinite negative => if negative then "-inf" else "inf"
  | .finite negative mantissa exponent =>
    let sign := if negative then "-" else ""
    if mantissa = 0 then sign ++ (if style.keepsFraction then "0.0" else "0")
    else sign ++ style.writeDecimal (Decimal.shortest mantissa exponent)

end NumberStyle

end ProviderRouting
