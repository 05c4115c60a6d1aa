import ProviderRouting.Text.Numeral

/-!
# Quoted texts in JSON

A quoted text is read as a sequence of code units, since an escape may write half of a pair that
only together stands for a character.  The units are joined afterwards; a half without its partner
stands for nothing.  In writing, quotes, backslashes and controls are escaped.
-/

namespace ProviderRouting.Json

/-- The value of four hexadecimal digits. -/
def hexUnit? (digits : List Char) : Option Nat := Text.readDigits Text.hexDigit? 16 digits

/-- The character of a short escape. -/
def shortEscape? : Char → Option Char
  | '"' => some '"'
  | '\\' => some '\\'
  | '/' => some '/'
  | 'b' => some '\x08'
  | 'f' => some '\x0c'
  | 'n' => some '\n'
  | 'r' => some '\r'
  | 't' => some '\t'
  | _ => none

/-- The units of a text up to its closing quote, and what follows it.  Controls must be escaped. -/
def scanUnits : List Char → Option (List Nat × List Char)
  | [] => none
  | '"' :: rest => some ([], rest)
  | '\\' :: 'u' :: a :: b :: c :: d :: rest => do
    let unit ← hexUnit? [a, b, c, d]
    let (units, after) ← scanUnits rest
    return (unit :: units, after)
  | '\\' :: letter :: rest => do
    let meant ← shortEscape? letter
    let (units, after) ← scanUnits rest
    return (meant.toNat :: units, after)
  | letter :: rest => do
    if letter = '\\' ∨ letter.toNat < 0x20 then none
    let (units, after) ← scanUnits rest
    return (letter.toNat :: units, after)

/-- Whether a unit is the first half of a pair. -/
def isLeading (unit : Nat) : Bool := 0xd800 ≤ unit && unit ≤ 0xdbff

/-- Whether a unit is the second half of a pair. -/
def isTrailing (unit : Nat) : Bool := 0xdc00 ≤ unit && unit ≤ 0xdfff

/-- The characters of units, unless a half stands alone. -/
def joinUnits : List Nat → Option (List Char)
  | [] => some []
  | unit :: rest =>
    if isLeading unit then
      match rest with
      | next :: rest =>
        if isTrailing next then
          let code := 0x10000 + (unit - 0xd800) * 0x400 + (next - 0xdc00)
          (joinUnits rest).map (Char.ofNat code :: ·)
        else none
      | [] => none
    else if isTrailing unit then none
    else (joinUnits rest).map (Char.ofNat unit :: ·)

/-- A hexadecimal digit. -/
def hexDigit (value : Nat) : Char := (Nat.toDigits 16 value).headD '0'

/-- The characters with which one character of a text is written. -/
def escapeChar (letter : Char) : List Char :=
  if letter = '"' then ['\\', '"']
  else if letter = '\\' then ['\\', '\\']
  else if letter = '\x08' then ['\\', 'b']
  else if letter = '\x0c' then ['\\', 'f']
  else if letter = '\n' then ['\\', 'n']
  else if letter = '\r' then ['\\', 'r']
  else if letter = '\t' then ['\\', 't']
  else if letter.toNat < 0x20 then
    ['\\', 'u', '0', '0', hexDigit (letter.toNat / 16), hexDigit (letter.toNat % 16)]
  else [letter]

/-- A text in quotes. -/
def quote (text : String) : String :=
  "\"" ++ String.ofList (text.toList.flatMap escapeChar) ++ "\""

end ProviderRouting.Json
