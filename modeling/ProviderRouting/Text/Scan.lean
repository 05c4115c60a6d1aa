/-!
# Scanning texts

A scan reads a part off the start of a text.  It gives what it read and what is left, or nothing if
the text does not start with such a part.
-/

namespace ProviderRouting

/-- What reads a part off the start of a text. -/
abbrev Scan (α : Type) := StateT (List Char) Option α

namespace Scan

/-- Read one character that passes a test. -/
def character (test : Char → Bool) : Scan Char := fun letters =>
  match letters with
  | letter :: rest => if test letter then some (letter, rest) else none
  | [] => none

/-- Read a given character. -/
def mark (letter : Char) : Scan Unit := do
  let _ ← character (· = letter)

/-- Read the characters that pass a test, as many as there are. -/
def run (test : Char → Bool) : Scan (List Char) := fun letters =>
  some (letters.takeWhile test, letters.dropWhile test)

/-- Look at the next character without reading it. -/
def peek : Scan (Option Char) := fun letters => some (letters.head?, letters)

/-- Read given letters if they come next; the answer is whether they did. -/
def literal? (expected : List Char) : Scan Bool := fun letters =>
  if letters.take expected.length = expected then some (true, letters.drop expected.length)
  else some (false, letters)

end Scan

end ProviderRouting
