import ProviderRouting.Text.Blank

/-!
# Production lines

Rules about program sources look at what ships: the lines outside test code, without comments.  A
line that is marked for tests and is followed by a declaration takes that declaration with it.  Any
other marked line starts the test part of a file, which goes on to its end.
-/

namespace ProviderRouting.Sources

/-- A line of a file. -/
structure Line where
  /-- Its number, counted from one. -/
  number : Nat
  /-- Its text. -/
  letters : List Char
deriving DecidableEq

/-- Drop a carriage return at the end. -/
def dropReturn (letters : List Char) : List Char :=
  if letters.getLast? = some '\r' then letters.dropLast else letters

/-- The lines among the pieces between line breaks.  What follows the last line break is a line
unless it is empty, and keeps its carriage return. -/
def linesAmong : (pieces : List (List Char)) → List (List Char)
  | [] => []
  | [last] => if last = [] then [] else [last]
  | piece :: rest => dropReturn piece :: linesAmong rest

/-- Number lines from a number on. -/
def numberFrom : (number : Nat) → List (List Char) → List Line
  | _, [] => []
  | number, letters :: rest => ⟨number, letters⟩ :: numberFrom (number + 1) rest

/-- The numbered lines of a text. -/
def linesOf (text : List Char) : List Line := numberFrom 1 (linesAmong (text.splitOn '\n'))

/-- The mark of test code. -/
def testMark : List Char := "#[cfg(test)]".toList

namespace Line

/-- Whether a line is blank. -/
def isBlank (line : Line) : Bool := Text.allBlank line.letters

/-- Whether a line starts with the mark of test code. -/
def isMarked (line : Line) : Bool := testMark.isPrefixOf (Text.trim line.letters)

/-- Whether a line ends a declaration. -/
def endsDeclaration (line : Line) : Bool := (Text.trimEnd line.letters).getLast? == some ';'

end Line

/-- A text up to its first comment mark. -/
def dropComment : List Char → List Char
  | [] => []
  | '/' :: '/' :: _ => []
  | letter :: rest => letter :: dropComment rest

/-- The code of a line, unless it has none. -/
def Line.code? (line : Line) : Option Line :=
  let code := dropComment line.letters
  if Text.allBlank code then none else some ⟨line.number, code⟩

/-- The production lines among the lines of a file. -/
def productionOf : List Line → List Line
  | [] => []
  | line :: rest =>
    if line.isMarked then
      match _h : rest.dropWhile Line.isBlank with
      | next :: after => if next.endsDeclaration then productionOf after else []
      | [] => []
    else line.code?.toList ++ productionOf rest
termination_by lines => lines.length
decreasing_by
  · have shorter : (rest.dropWhile Line.isBlank).length ≤ rest.length :=
      (List.dropWhile_sublist _).length_le
    rw [_h] at shorter
    simp only [List.length_cons] at shorter ⊢
    omega
  · simp

/-- The production lines of a file. -/
def productionLines (text : String) : List Line := productionOf (linesOf text.toList)

/-- A line that breaks a rule. -/
structure Violation where
  /-- The file. -/
  path : String
  /-- The number of the line. -/
  line : Nat
  /-- The code of the line. -/
  code : String

/-- The text of a violation. -/
def Violation.write (violation : Violation) : String :=
  violation.path ++ ":" ++ toString violation.line ++ " - " ++ violation.code

/-- The production lines that a rule forbids. -/
def violations (path text : String) (forbidden : List Char → Bool) : List Violation :=
  ((productionLines text).filter fun line => forbidden line.letters).map fun line =>
    ⟨path, line.number, String.ofList (Text.trim line.letters)⟩

/-- Whether a text holds another one. -/
def holds (needle : List Char) : List Char → Bool
  | [] => needle.isEmpty
  | letter :: rest => needle.isPrefixOf (letter :: rest) || holds needle rest

end ProviderRouting.Sources
