import ProviderRouting.Toml.Draft
import ProviderRouting.Toml.Quoted
import ProviderRouting.Toml.Scalar

/-!
# Reading TOML

A text is a sequence of lines: headers, which say which table the following lines are about, and
assignments to keys of that table.  Every line may end in a comment.
-/

namespace ProviderRouting.Toml

/-- The most lists and tables that may stand inside each other in one value. -/
def maxDepth : Nat := 79

/-- The most parts that a key may have. -/
def maxParts : Nat := 79

/-- Whether a character is a blank within a line. -/
def isBlank (letter : Char) : Bool := letter = ' ' || letter = '\t'

/-- Drop blanks within a line. -/
def skipBlanks : Scan Unit := modify fun letters => letters.dropWhile isBlank

/-- Whether a character may stand in a key without quotes. -/
def isBare (letter : Char) : Bool := letter.isAlphanum || letter = '_' || letter = '-'

/-- Drop a comment, if one comes next. -/
def skipComment : Scan Unit := modify fun letters =>
  match letters with
  | '#' :: rest => rest.dropWhile isPlain
  | letters => letters

/-- Read a line break; `true` if there was one. -/
def lineBreak? : Scan Bool := fun letters =>
  match letters with
  | '\n' :: rest => some (true, rest)
  | '\r' :: '\n' :: rest => some (true, rest)
  | letters => some (false, letters)

/-- Read what may stand at the end of a line, and its break or the end of the text. -/
def endLine : Scan Unit := do
  skipBlanks
  skipComment
  let broken ← lineBreak?
  let letters ← get
  guard (broken ∨ letters.isEmpty)

/-- Drop blanks, comments and line breaks between the values of a list.  `fuel` bounds the number
of lines. -/
def skipLines : (fuel : Nat) → Scan Unit
  | 0 => pure ()
  | fuel + 1 => do
    skipBlanks
    let before ← get
    skipComment
    let broken ← lineBreak?
    if broken then skipLines fuel else set before

/-- One part of a key. -/
def scanKeyPart : Scan String := do
  skipBlanks
  let key ← match ← Scan.peek with
    | some letter =>
      if letter = '"' ∨ letter = '\'' then scanLineText
      else do
        let first ← Scan.character isBare
        let rest ← Scan.run isBare
        pure (String.ofList (first :: rest))
    | none => failure
  skipBlanks
  return key

/-- The parts of a key after the first one.  `fuel` bounds their number. -/
def scanKeyRest : (fuel : Nat) → Scan (List String)
  | 0 => failure
  | fuel + 1 => do
    if ← Scan.literal? ['.'] then do
      let part ← scanKeyPart
      let rest ← scanKeyRest fuel
      return part :: rest
    else return []

/-- A key: the parts on its path, and the last one. -/
def scanKey : Scan (List String × String) := do
  let first ← scanKeyPart
  let rest ← scanKeyRest maxParts
  let parts := first :: rest
  return (parts.dropLast, parts.getLast?.getD first)

mutual

/-- A value, with `depth` lists and tables around it.  `fuel` bounds the number of values. -/
def scanValue : (fuel : Nat) → (depth : Nat) → Scan Document
  | 0, _ => failure
  | fuel + 1, depth => do
    match ← Scan.peek with
    | some '"' | some '\'' => return .text (← scanText)
    | some '[' => do
      Scan.mark '['
      guard (depth < maxDepth)
      return .list (← scanItems fuel (depth + 1))
    | some '\x7b' => do
      Scan.mark '\x7b'
      guard (depth < maxDepth)
      skipBlanks
      if ← Scan.literal? ['\x7d'] then return .record []
      else return .record (documentsOf (← scanInline fuel (depth + 1) []))
    | some 't' => do
      guard (← Scan.literal? "true".toList)
      return .bool true
    | some 'f' => do
      guard (← Scan.literal? "false".toList)
      return .bool false
    | _ => scanScalar

/-- The values of a list up to its closing bracket. -/
def scanItems : (fuel : Nat) → (depth : Nat) → Scan (List Document)
  | 0, _ => failure
  | fuel + 1, depth => do
    let letters ← get
    skipLines letters.length
    if ← Scan.literal? [']'] then return []
    else do
      let item ← scanValue fuel depth
      skipLines letters.length
      if ← Scan.literal? [','] then do
        let items ← scanItems fuel depth
        return item :: items
      else do
        Scan.mark ']'
        return [item]

/-- The assignments of a table within a line, up to its closing brace. -/
def scanInline : (fuel : Nat) → (depth : Nat) → Entries → Scan Entries
  | 0, _, _ => failure
  | fuel + 1, depth, entries => do
    let (path, key) ← scanKey
    Scan.mark '='
    skipBlanks
    let value ← scanValue fuel depth
    skipBlanks
    let entries ← (assign path key value .header entries : Option Entries)
    if ← Scan.literal? [','] then scanInline fuel depth entries
    else do
      Scan.mark '\x7d'
      return entries

end

/-- How far a text has been read. -/
structure Progress where
  /-- Everything read so far. -/
  root : Entries
  /-- The path of the table that the present lines are about. -/
  current : List String
deriving Inhabited

/-- Read a header and open its table. -/
def scanHeader (progress : Progress) : Scan Progress := do
  Scan.mark '['
  let listed ← Scan.literal? ['[']
  let (path, key) ← scanKey
  Scan.mark ']'
  if listed then Scan.mark ']'
  endLine
  let change := if listed then openListed key else openTable key
  let root ← (alter .step change path .header progress.root : Option Entries)
  return ⟨root, path ++ [key]⟩

/-- Read an assignment and carry it out on the present table. -/
def scanAssignment (progress : Progress) : Scan Progress := do
  let (path, key) ← scanKey
  Scan.mark '='
  skipBlanks
  let letters ← get
  let value ← scanValue (letters.length + 1) 0
  endLine
  let root ←
    (alter .step (assign path key value) progress.current .header progress.root : Option Entries)
  return { progress with root := root }

/-- Read lines until the text ends.  `fuel` bounds their number. -/
def scanDocument : (fuel : Nat) → Progress → Scan Progress
  | 0, _ => failure
  | fuel + 1, progress => do
    skipBlanks
    match ← Scan.peek with
    | none => return progress
    | some '[' => do
      let progress ← scanHeader progress
      scanDocument fuel progress
    | some letter =>
      if letter = '#' ∨ letter = '\n' ∨ letter = '\r' then do
        endLine
        scanDocument fuel progress
      else do
        let progress ← scanAssignment progress
        scanDocument fuel progress

/-- The mark of the byte order, which may stand before everything else. -/
def byteOrderMark : Char := '\ufeff'

/-- The document of a text. -/
def read? (text : String) : Option Document :=
  let letters := match text.toList with
    | first :: rest => if first = byteOrderMark then rest else first :: rest
    | [] => []
  match scanDocument (letters.length + 1) default letters with
  | some (progress, _) => some (.record (documentsOf progress.root))
  | none => none

end ProviderRouting.Toml
