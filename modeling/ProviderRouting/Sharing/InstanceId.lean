import ProviderRouting.Text.Numeral

/-!
# Identifiers of instances

An instance that shares its breakers with others is known by a number of 128 bits.  It is written
as 32 hexadecimal digits in groups of eight, four, four, four and twelve.  In reading, the hyphens
between the groups may all be missing; with them, braces or the marker `urn:uuid:` may stand around
the digits.  Letters may be of either case.
-/

namespace ProviderRouting

/-- The identifier of an instance. -/
structure InstanceId where
  /-- The number. -/
  number : Nat
deriving DecidableEq, Inhabited

namespace InstanceId

/-- The lengths of the groups of digits. -/
def groups : List Nat := [8, 4, 4, 4, 12]

/-- Cut letters into groups joined by hyphens. -/
def hyphenate : List Nat → List Char → List Char
  | [], letters => letters
  | [_], letters => letters
  | length :: lengths, letters =>
    letters.take length ++ '-' :: hyphenate lengths (letters.drop length)

/-- The hexadecimal digits, with zeros in front. -/
def digits (id : InstanceId) : List Char :=
  let significant := Nat.toDigits 16 id.number
  List.replicate (32 - significant.length) '0' ++ significant

/-- The text of an identifier. -/
def write (id : InstanceId) : String := String.ofList (hyphenate groups id.digits)

/-- Take letters out of groups joined by hyphens. -/
def ungroup : List Nat → List Char → Option (List Char)
  | [], letters => if letters.isEmpty then some [] else none
  | [length], letters => if letters.length = length then some letters else none
  | length :: lengths, letters =>
    match letters.drop length with
    | '-' :: rest => (ungroup lengths rest).map (letters.take length ++ ·)
    | _ => none

/-- The marker that may stand before the digits. -/
def marker : List Char := "urn:uuid:".toList

/-- The letters between braces, after the marker, or as they are. -/
def unwrap (letters : List Char) : List Char :=
  match letters with
  | '\x7b' :: rest => if rest.getLast? = some '\x7d' then rest.dropLast else letters
  | _ =>
    if (letters.take marker.length).map Char.toLower = marker then letters.drop marker.length
    else letters

/-- The identifier that a text writes. -/
def read? (text : String) : Option InstanceId := do
  let letters := text.toList
  let digits ←
    if letters.length = 32 then some letters
    else ungroup groups (unwrap letters)
  (Text.readDigits Text.hexDigit? 16 digits).map InstanceId.mk

/-- The identifier with the given 128 bits, but for the six that mark it as made at random: the
version, which is four, and the two bits of the variant, which are one and zero. -/
def ofRandomBits (bits : Nat) : InstanceId :=
  let front := bits / UInt64.size / 65536
  let middle := bits / UInt64.size % 4096
  let back := bits % (UInt64.size / 4)
  ⟨((front * 16 + 4) * 4096 + middle) * UInt64.size + UInt64.size / 2 + back⟩

end InstanceId

end ProviderRouting
