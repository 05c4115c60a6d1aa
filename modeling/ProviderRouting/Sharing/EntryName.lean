import ProviderRouting.Files.Path
import ProviderRouting.Text.Numeral

/-!
# Names of entries

The state of a provider is kept in a file named for it.  Letters, digits, underscores and hyphens
stand for themselves; every other byte of the name is written as a percent sign with two hexadecimal
digits, so no name leads out of the folder and different names have different files.
-/

namespace ProviderRouting.EntryName

/-- Whether a byte stands for itself. -/
def isKept (byte : UInt8) : Bool :=
  let letter := Char.ofNat byte.toNat
  byte < 0x80 && (letter.isAlphanum || letter = '_' || letter = '-')

/-- A hexadecimal digit in upper case. -/
def upperDigit (value : Nat) : Char := ((Nat.toDigits 16 value).headD '0').toUpper

/-- The characters of a byte. -/
def escape (byte : UInt8) : List Char :=
  if isKept byte then [Char.ofNat byte.toNat]
  else ['%', upperDigit (byte.toNat / 16), upperDigit (byte.toNat % 16)]

/-- The name of a provider's file without its extension. -/
def stem (provider : String) : String :=
  String.ofList (provider.toUTF8.toList.flatMap escape)

/-- The name of a provider's file. -/
def ofProvider (provider : String) : String := stem provider ++ ".json"

/-- Whether a file may hold the state of a provider. -/
def isEntry (name : String) : Bool := Path.extension? name == some "json"

end ProviderRouting.EntryName
