import ProviderRouting.Text.Numeral
import ProviderRouting.Text.Scan

/-!
# Quoted texts in TOML

A text stands between double quotes, where a backslash starts an escape, or between apostrophes,
where every character stands for itself.  Three quotes on either side make a text that may go over
several lines: a line break right after the opening quotes does not count, and the text may start
and end with one or two quotes of its own.
-/

namespace ProviderRouting.Toml

/-- Whether a character may stand for itself in a line of text or in a comment. -/
def isPlain (letter : Char) : Bool :=
  letter = '\t' || (0x20 ≤ letter.toNat && letter.toNat ≠ 0x7f)

/-- Drop a line break at the start, if there is one. -/
def dropBreak : List Char → List Char
  | '\n' :: rest => rest
  | '\r' :: '\n' :: rest => rest
  | letters => letters

/-- Drop blanks and line breaks at the start. -/
def dropLines : List Char → List Char
  | '\r' :: '\n' :: rest => dropLines rest
  | '\n' :: rest => dropLines rest
  | ' ' :: rest => dropLines rest
  | '\t' :: rest => dropLines rest
  | letters => letters

/-- The character with a given code, unless the code is that of no character. -/
def charOfCode? (code : Nat) : Option Char :=
  if code.isValidChar then some (Char.ofNat code) else none

/-- The character of a numbered escape with the given digits. -/
def escapedCode? (digits : List Char) : Option Char :=
  (Text.readDigits Text.hexDigit? 16 digits).bind charOfCode?

/-- The character that an escape without its backslash stands for, and what follows. -/
def scanEscape : List Char → Option (Char × List Char)
  | 'b' :: rest => some ('\x08', rest)
  | 'f' :: rest => some ('\x0c', rest)
  | 'n' :: rest => some ('\n', rest)
  | 'r' :: rest => some ('\r', rest)
  | 't' :: rest => some ('\t', rest)
  | '\\' :: rest => some ('\\', rest)
  | '"' :: rest => some ('"', rest)
  | 'u' :: rest =>
    if rest.length < 4 then none
    else (escapedCode? (rest.take 4)).map (·, rest.drop 4)
  | 'U' :: rest =>
    if rest.length < 8 then none
    else (escapedCode? (rest.take 8)).map (·, rest.drop 8)
  | _ => none

/-- Whether a backslash is the last mark on its line, given what follows it. -/
def endsLine (letters : List Char) : Bool :=
  match letters.dropWhile fun letter => letter = ' ' || letter = '\t' with
  | '\n' :: _ | '\r' :: '\n' :: _ => true
  | _ => false

/-- The rest of a line text up to its closing quote.  `fuel` bounds the number of characters. -/
def scanLine (quote : Char) : (fuel : Nat) → Scan (List Char)
  | 0, _ => none
  | _, [] => none
  | fuel + 1, letter :: rest =>
    if letter = quote then some ([], rest)
    else if letter = '\\' ∧ quote = '"' then do
      let (meant, rest) ← scanEscape rest
      let (text, rest) ← scanLine quote fuel rest
      return (meant :: text, rest)
    else if isPlain letter then do
      let (text, rest) ← scanLine quote fuel rest
      return (letter :: text, rest)
    else none

/-- The rest of a text over several lines up to its closing quotes. -/
def scanLines (quote : Char) : (fuel : Nat) → Scan (List Char)
  | 0, _ => none
  | _, [] => none
  | fuel + 1, letter :: rest =>
    if letter = quote then
      let quotes := letter :: rest.takeWhile (· = quote)
      let after := rest.dropWhile (· = quote)
      if 3 ≤ quotes.length then
        if quotes.length ≤ 5 then some (quotes.drop 3, after) else none
      else do
        let (text, rest) ← scanLines quote fuel after
        return (quotes ++ text, rest)
    else if letter = '\\' ∧ quote = '"' then
      if endsLine rest then scanLines quote fuel (dropLines rest)
      else do
        let (meant, rest) ← scanEscape rest
        let (text, rest) ← scanLines quote fuel rest
        return (meant :: text, rest)
    else if letter = '\n' ∨ isPlain letter then do
      let (text, rest) ← scanLines quote fuel rest
      return (letter :: text, rest)
    else if letter = '\r' ∧ rest.head? = some '\n' then scanLines quote fuel rest
    else none

/-- A text of one line, opening quote included. -/
def scanLineText : Scan String := fun letters =>
  match letters with
  | quote :: rest =>
    if quote = '"' ∨ quote = '\'' then
      (scanLine quote letters.length rest).map fun (text, rest) => (String.ofList text, rest)
    else none
  | [] => none

/-- A text of one or several lines, opening quotes included. -/
def scanText : Scan String := fun letters =>
  match letters with
  | first :: second :: third :: rest =>
    if (first = '"' ∨ first = '\'') ∧ second = first ∧ third = first then
      (scanLines first letters.length (dropBreak rest)).map fun (text, rest) =>
        (String.ofList text, rest)
    else scanLineText letters
  | letters => scanLineText letters

end ProviderRouting.Toml
