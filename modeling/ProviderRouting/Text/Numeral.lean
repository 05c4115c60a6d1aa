/-!
# Numerals

Whole numbers as they are written in settings: decimal digits, one plus sign in front allowed,
nothing else, and the value must fit the width it is read for.
-/

namespace ProviderRouting.Text

/-- The value of a decimal digit. -/
def digit? (letter : Char) : Option Nat :=
  if '0' ≤ letter ∧ letter ≤ '9' then some (letter.toNat - '0'.toNat) else none

/-- The value of a hexadecimal digit. -/
def hexDigit? (letter : Char) : Option Nat :=
  if '0' ≤ letter ∧ letter ≤ '9' then some (letter.toNat - '0'.toNat)
  else if 'a' ≤ letter ∧ letter ≤ 'f' then some (letter.toNat - 'a'.toNat + 10)
  else if 'A' ≤ letter ∧ letter ≤ 'F' then some (letter.toNat - 'A'.toNat + 10)
  else none

/-- The number that digits write in a base, if every character is a digit. -/
def readDigits (digit : Char → Option Nat) (base : Nat) (letters : List Char) : Option Nat :=
  letters.foldl
    (fun total letter => do return (← total) * base + (← digit letter)) (some 0)

/-- Read a whole number below `bound`. -/
def numeral? (bound : Nat) (text : String) : Option Nat :=
  let letters := match text.toList with
    | '+' :: rest => rest
    | letters => letters
  if letters.isEmpty then none
  else match readDigits digit? 10 letters with
    | some value => if value < bound then some value else none
    | none => none

/-- Fill a text with blanks on the right up to a number of characters. -/
def padRight (width : Nat) (text : String) : String :=
  text ++ String.ofList (List.replicate (width - text.length) ' ')

end ProviderRouting.Text
