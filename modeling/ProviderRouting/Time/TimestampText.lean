import ProviderRouting.Text.Blank
import ProviderRouting.Text.Numeral
import ProviderRouting.Text.Scan
import ProviderRouting.Time.Calendar
import ProviderRouting.Time.Timestamp

/-!
# Timestamps in text

A timestamp is written in UTC as date and time joined by `T`, with as many decimals as it needs in
groups of three, and a final `Z`.  Reading is more lenient: any offset is accepted, blanks may stand
around the parts, and a minute may have a leap second.
-/

namespace ProviderRouting

namespace Timestamp

/-- The number of the first day of 1970. -/
def epoch : Int := 719162

/-- A number with zeros in front up to a number of digits. -/
def padded (width value : Nat) : String :=
  let digits := Nat.toDigits 10 value
  String.ofList (List.replicate (width - digits.length) '0' ++ digits)

/-- A year: four digits, with a sign in front if it has to have more or is negative. -/
def writeYear (year : Int) : String :=
  if 0 ≤ year ∧ year ≤ 9999 then padded 4 year.toNat
  else (if year < 0 then "-" else "+") ++ padded 4 year.natAbs

/-- The decimals of a second. -/
def writeFraction (nanoseconds : Nat) : String :=
  if nanoseconds = 0 then ""
  else if nanoseconds % 1000000 = 0 then "." ++ padded 3 (nanoseconds / 1000000)
  else if nanoseconds % 1000 = 0 then "." ++ padded 6 (nanoseconds / 1000)
  else "." ++ padded 9 nanoseconds

/-- The text of a timestamp. -/
def write (time : Timestamp) : String :=
  let date := Date.ofDayNumber (time.seconds / 86400 + epoch)
  let inDay := (time.seconds % 86400).toNat
  let second := inDay % 60 + (if time.isLeap then 1 else 0)
  let nanoseconds :=
    if time.isLeap then time.nanoseconds - Duration.perSecond else time.nanoseconds
  writeYear date.year ++ "-" ++ padded 2 date.month ++ "-" ++ padded 2 date.day ++ "T"
    ++ padded 2 (inDay / 3600) ++ ":" ++ padded 2 (inDay / 60 % 60) ++ ":" ++ padded 2 second
    ++ writeFraction nanoseconds ++ "Z"

/-- Drop blanks. -/
def blanks : Scan Unit := modify Text.trimStart

/-- Read at least one and at most `limit` digits as a number. -/
def digits (limit : Nat) : Scan Nat := fun letters =>
  let run := (letters.takeWhile Char.isDigit).take limit
  if run.isEmpty then none
  else (Text.readDigits Text.digit? 10 run).map (·, letters.drop run.length)

/-- Read exactly two digits as a number. -/
def twoDigits : Scan Nat := fun letters =>
  match letters with
  | tens :: ones :: rest => do
    return ((← Text.digit? tens) * 10 + (← Text.digit? ones), rest)
  | _ => none

/-- Read a year: any number of digits after a sign, at most four without one. -/
def scanYear : Scan Int := fun letters =>
  let unlimited := letters.length
  match letters with
  | '-' :: rest => (digits unlimited rest).map fun (value, rest) => (-(value : Int), rest)
  | '+' :: rest => (digits unlimited rest).map fun (value, rest) => ((value : Int), rest)
  | letters => (digits 4 letters).map fun (value, rest) => ((value : Int), rest)

/-- Read the decimals of a second, if there is a point, as nanoseconds; digits after the ninth do
not count. -/
def scanFraction : Scan Nat := fun letters =>
  match letters with
  | '.' :: rest =>
    let run := rest.takeWhile Char.isDigit
    let counted := run.take 9
    if run.isEmpty then none
    else (Text.readDigits Text.digit? 10 counted).map fun value =>
      (value * Nat.pow 10 (9 - counted.length), rest.drop run.length)
  | letters => some (0, letters)

/-- The minus signs of an offset. -/
def isMinus (letter : Char) : Bool := letter = '-' || letter = '−'

/-- Read an offset from UTC in seconds. -/
def scanOffset : Scan Int := fun letters =>
  match letters with
  | [] => none
  | sign :: rest =>
    if sign = 'Z' ∨ sign = 'z' then some (0, rest)
    else if (letters.take 3).map Char.toUpper = ['U', 'T', 'C'] then some (0, letters.drop 3)
    else if sign = '+' ∨ isMinus sign then do
      let (hours, rest) ← twoDigits rest
      let (minutes, rest) ←
        twoDigits (rest.dropWhile fun letter => letter = ':' || Text.isBlank letter)
      if 60 ≤ minutes ∨ 24 ≤ hours then none
      let size : Int := (hours * 60 + minutes) * 60
      return (if isMinus sign then -size else size, rest)
    else none

/-- Read a number of one or two digits after blanks. -/
def component : Scan Nat := do
  blanks
  digits 2

/-- Read a separator after blanks. -/
def separator (mark : Char) : Scan Unit := do
  blanks
  Scan.mark mark

/-- Read a timestamp. -/
def scan : Scan Timestamp := do
  blanks
  let year ← scanYear
  separator '-'
  let month ← component
  separator '-'
  let day ← component
  let _ ← Scan.character fun mark => mark = 'T' || mark = 't' || mark = ' '
  let hour ← component
  separator ':'
  let minute ← component
  separator ':'
  let second ← component
  let fraction ← scanFraction
  blanks
  let offset ← scanOffset
  let date ← (Date.of? year month day : Option Date)
  guard (hour ≤ 23 ∧ minute ≤ 59 ∧ second ≤ 60)
  let inDay : Int := (hour * 60 + minute) * 60 + min second 59
  return ⟨(date.dayNumber - epoch) * 86400 + inDay - offset,
    fraction + (if second = 60 then Duration.perSecond else 0)⟩

/-- Whether a timestamp lies in the range of years. -/
def inRange (time : Timestamp) : Bool :=
  let year := (Date.ofDayNumber (time.seconds / 86400 + epoch)).year
  Date.yearRange.1 ≤ year && year ≤ Date.yearRange.2

/-- The timestamp that a text writes. -/
def read? (text : String) : Option Timestamp :=
  match scan text.toList with
  | some (time, rest) => if Text.allBlank rest && time.inRange then some time else none
  | none => none

end Timestamp

end ProviderRouting
