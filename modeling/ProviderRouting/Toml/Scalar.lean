import ProviderRouting.Document.Basic
import ProviderRouting.Text.Numeral
import ProviderRouting.Text.Scan
import ProviderRouting.Time.Calendar

/-!
# Numbers and times in TOML

Whole numbers fit 64 bits and may be written in base 2, 8, 10 or 16; underscores may stand between
digits.  A double is the nearest one to what is written; above all doubles it is refused, below all
of them it is negative infinity.  A time is only checked: it becomes a record that no structure
looks into.
-/

namespace ProviderRouting.Toml

/-- The digits after the first one; an underscore must stand between two digits. -/
def scanMoreDigits (isDigit : Char → Bool) : List Char → Option (List Char × List Char)
  | '_' :: digit :: rest =>
    if isDigit digit then
      (scanMoreDigits isDigit rest).map fun (digits, rest) => (digit :: digits, rest)
    else none
  | ['_'] => none
  | letter :: rest =>
    if isDigit letter then
      (scanMoreDigits isDigit rest).map fun (digits, rest) => (letter :: digits, rest)
    else some ([], letter :: rest)
  | [] => some ([], [])

/-- One or more digits, underscores left out. -/
def scanDigits (isDigit : Char → Bool) : Scan (List Char) := do
  let first ← Scan.character isDigit
  let rest ← scanMoreDigits isDigit
  return first :: rest

/-- The digits of a decimal number without leading zeros. -/
def scanDecimal : Scan (List Char) := do
  match ← Scan.peek with
  | some '0' => do
    Scan.mark '0'
    return ['0']
  | _ => scanDigits Char.isDigit

/-- A whole number that fits 64 bits. -/
def wholeNumber (negative : Bool) (size : Nat) : Option Document :=
  if negative then
    if size ≤ UInt64.size / 2 then some (.integer (-size)) else none
  else
    if size < UInt64.size / 2 then some (.integer size) else none

/-- The digits in a base other than ten. -/
def scanBased (digit : Char → Option Nat) (base : Nat) : Scan Document := do
  let digits ← scanDigits fun letter => (digit letter).any (· < base)
  let size ← (Text.readDigits digit base digits : Option Nat)
  wholeNumber false size

/-- The double nearest to `digits * 10 ^ exponent`.  Far outside the range of doubles the exact
power does not matter. -/
def nearestDouble (digits : List Char) (exponent : Int) : Float :=
  let significand := (Text.readDigits Text.digit? 10 digits).getD 0
  let power := exponent + (Nat.toDigits 10 significand).length
  if significand = 0 then 0.0
  else if 400 < power then 1.0 / 0.0
  else if power < -400 then 0.0
  else Float.ofScientific significand (exponent < 0) exponent.natAbs

/-- A double with a sign, unless it is above all doubles. -/
def signedDouble (negative : Bool) (size : Float) : Option Document :=
  if negative then some (.float (-size))
  else if size.isInf then none
  else some (.float size)

/-- The exponent after its mark. -/
def scanExponent : Scan Int := do
  let negative ← match ← Scan.peek with
    | some '-' => do
      Scan.mark '-'
      pure true
    | some '+' => do
      Scan.mark '+'
      pure false
    | _ => pure false
  let digits ← scanDigits Char.isDigit
  let size ← (Text.readDigits Text.digit? 10 digits : Option Nat)
  return if negative then -(size : Int) else size

/-- The exponent, zero if there is none. -/
def scanOptionalExponent : Scan Int := do
  match ← Scan.peek with
  | some letter =>
    if letter = 'e' ∨ letter = 'E' then do
      Scan.mark letter
      scanExponent
    else return 0
  | none => return 0

/-- A decimal number after its sign. -/
def scanSize (negative : Bool) : Scan Document := do
  let whole ← scanDecimal
  match ← Scan.peek with
  | some '.' => do
    Scan.mark '.'
    let fraction ← scanDigits Char.isDigit
    let exponent ← scanOptionalExponent
    signedDouble negative (nearestDouble (whole ++ fraction) (exponent - fraction.length))
  | some letter =>
    if letter = 'e' ∨ letter = 'E' then do
      let exponent ← scanOptionalExponent
      signedDouble negative (nearestDouble whole exponent)
    else wholeNumber negative (← (Text.readDigits Text.digit? 10 whole : Option Nat))
  | none => wholeNumber negative (← (Text.readDigits Text.digit? 10 whole : Option Nat))

/-- A number, an infinity or what is not a number, after its sign. -/
def scanMagnitude (negative : Bool) : Scan Document := do
  if ← Scan.literal? "inf".toList then
    return .float (if negative then -1.0 / 0.0 else 1.0 / 0.0)
  else if ← Scan.literal? "nan".toList then return .nan negative
  else scanSize negative

/-- A number. -/
def scanNumber : Scan Document := do
  if ← Scan.literal? "0x".toList then scanBased Text.hexDigit? 16
  else if ← Scan.literal? "0o".toList then scanBased Text.digit? 8
  else if ← Scan.literal? "0b".toList then scanBased Text.digit? 2
  else if ← Scan.literal? ['-'] then scanMagnitude true
  else if ← Scan.literal? ['+'] then scanMagnitude false
  else scanMagnitude false

/-- A number of a fixed count of digits within bounds. -/
def scanField (count low high : Nat) : Scan Nat := fun letters =>
  let digits := letters.take count
  if digits.length < count then none
  else match Text.readDigits Text.digit? 10 digits with
    | some value => if low ≤ value ∧ value ≤ high then some (value, letters.drop count) else none
    | none => none

/-- Whether a text starts with the first field of a date: four digits and a hyphen. -/
def startsDate (letters : List Char) : Bool :=
  (letters.take 4).length == 4 && (letters.take 4).all Char.isDigit && letters[4]? == some '-'

/-- Whether a text starts with the first field of a time of day: an hour and a colon. -/
def startsTime (letters : List Char) : Bool :=
  match scanField 2 0 23 letters with
  | some (_, rest) => rest.head? == some ':'
  | none => false

/-- A date. -/
def scanDate : Scan Unit := do
  let year ← scanField 4 0 9999
  Scan.mark '-'
  let month ← scanField 2 1 12
  Scan.mark '-'
  let day ← scanField 2 1 31
  let _ ← (Date.of? year month day : Option Date)

/-- A time of day. -/
def scanTime : Scan Unit := do
  let _ ← scanField 2 0 23
  Scan.mark ':'
  let _ ← scanField 2 0 59
  Scan.mark ':'
  let _ ← scanField 2 0 60
  if ← Scan.literal? ['.'] then
    let _ ← Scan.character Char.isDigit
    let _ ← Scan.run Char.isDigit

/-- An offset from UTC, if there is one. -/
def scanOffset : Scan Unit := do
  match ← Scan.peek with
  | some letter =>
    if letter = 'Z' ∨ letter = 'z' then Scan.mark letter
    else if letter = '+' ∨ letter = '-' then do
      Scan.mark letter
      let _ ← scanField 2 0 23
      Scan.mark ':'
      let _ ← scanField 2 0 59
    else return
  | none => return

/-- Whether a time of day follows a date: after `T` or one blank. -/
def timeFollows : List Char → Bool
  | mark :: rest => (mark = 'T' || mark = 't' || mark = ' ') && startsTime rest
  | [] => false

/-- A date, with a time of day if one follows. -/
def scanDateTime : Scan Unit := do
  scanDate
  if timeFollows (← get) then
    let _ ← Scan.character fun _ => true
    scanTime
    scanOffset

/-- The record that stands for a time. -/
def momentRecord : Document := .record [("$moment", .null)]

/-- A number or a time. -/
def scanScalar : Scan Document := do
  let letters ← get
  if startsDate letters then do
    scanDateTime
    return momentRecord
  else if startsTime letters then do
    scanTime
    return momentRecord
  else scanNumber

end ProviderRouting.Toml
