/-!
# White space

The blank characters are those with the Unicode property `White_Space`.  Trimming drops them at the
ends of a text.
-/

namespace ProviderRouting.Text

/-- Whether a character is white space. -/
def isBlank (letter : Char) : Bool :=
  let code := letter.toNat
  (0x09 ≤ code && code ≤ 0x0d) || code == 0x20 || code == 0x85 || code == 0xa0 || code == 0x1680
    || (0x2000 ≤ code && code ≤ 0x200a) || code == 0x2028 || code == 0x2029 || code == 0x202f
    || code == 0x205f || code == 0x3000

/-- Drop the blanks at the start. -/
def trimStart (letters : List Char) : List Char := letters.dropWhile isBlank

/-- Drop the blanks at the end. -/
def trimEnd : List Char → List Char
  | [] => []
  | letter :: rest =>
    match trimEnd rest with
    | [] => if isBlank letter then [] else [letter]
    | kept => letter :: kept

/-- Drop the blanks at both ends. -/
def trim (letters : List Char) : List Char := trimEnd (trimStart letters)

/-- Whether a text has nothing but blanks. -/
def allBlank (letters : List Char) : Bool := letters.all isBlank

end ProviderRouting.Text
