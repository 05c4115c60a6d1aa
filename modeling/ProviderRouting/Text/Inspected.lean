import ProviderRouting.Text.Unshown

/-!
# Inspected texts

An inspected text stands in double quotes.  Quotes, backslashes and line controls are escaped by a
backslash, other characters that would not show as themselves by their code.
-/

namespace ProviderRouting.Text

/-- The characters that stand for one character of an inspected text. -/
def inspectChar (letter : Char) : List Char :=
  if letter = '"' || letter = '\\' then ['\\', letter]
  else if letter = '\n' then ['\\', 'n']
  else if letter = '\r' then ['\\', 'r']
  else if letter = '\t' then ['\\', 't']
  else if letter.toNat = 0 then ['\\', '0']
  else if isUnshown letter then
    "\\u\x7b".toList ++ Nat.toDigits 16 letter.toNat ++ "\x7d".toList
  else [letter]

/-- A text in quotes, with every character that would not show as itself escaped. -/
def inspect (text : String) : String :=
  "\"" ++ String.ofList (text.toList.flatMap inspectChar) ++ "\""

end ProviderRouting.Text
