import ProviderRouting.Json.Number
import ProviderRouting.Json.Quoted

/-!
# Reading JSON

A text is read as one value with nothing but blanks around it.  Only the form is judged: values
that are out of range or hold half a pair become unusable parts of the document, and nesting is not
limited.
-/

namespace ProviderRouting.Json

/-- Whether a character may stand between the parts of a text. -/
def isGap (letter : Char) : Bool :=
  letter = ' ' || letter = '\n' || letter = '\r' || letter = '\t'

/-- Drop the blanks at the start. -/
def skipGaps (letters : List Char) : List Char := letters.dropWhile isGap

/-- The text at the start, without its opening quote; `none` inside if it stands for nothing. -/
def scanText (letters : List Char) : Option (Option String × List Char) :=
  (scanUnits letters).map fun (units, rest) => ((joinUnits units).map String.ofList, rest)

/-- A record with the given fields, unusable if the name of one stands for nothing. -/
def recordOf (fields : List (Option String × Document)) : Document :=
  match fields.mapM fun (name, value) => name.map (·, value) with
  | some fields => .record fields
  | none => .unusable

mutual

/-- The value at the start of a text.  `fuel` bounds the number of values and separators. -/
def scanValue : (fuel : Nat) → List Char → Option (Document × List Char)
  | 0, _ => none
  | fuel + 1, letters =>
    match skipGaps letters with
    | 'n' :: 'u' :: 'l' :: 'l' :: rest => some (.null, rest)
    | 't' :: 'r' :: 'u' :: 'e' :: rest => some (.bool true, rest)
    | 'f' :: 'a' :: 'l' :: 's' :: 'e' :: rest => some (.bool false, rest)
    | '"' :: rest => do
      let (text, rest) ← scanText rest
      return ((text.map Document.text).getD .unusable, rest)
    | '[' :: rest =>
      match skipGaps rest with
      | ']' :: rest => some (.list [], rest)
      | rest => do
        let (items, rest) ← scanItems fuel rest
        return (.list items, rest)
    | '\x7b' :: rest =>
      match skipGaps rest with
      | '\x7d' :: rest => some (.record [], rest)
      | rest => do
        let (fields, rest) ← scanFields fuel rest
        return (recordOf fields, rest)
    | letters => (scanNumber letters).map fun (number, rest) => (number.value, rest)

/-- The values of a list up to its closing bracket. -/
def scanItems : (fuel : Nat) → List Char → Option (List Document × List Char)
  | 0, _ => none
  | fuel + 1, letters => do
    let (item, rest) ← scanValue fuel letters
    match skipGaps rest with
    | ',' :: rest => do
      let (items, rest) ← scanItems fuel rest
      return (item :: items, rest)
    | ']' :: rest => return ([item], rest)
    | _ => none

/-- The fields of a record up to its closing brace. -/
def scanFields : (fuel : Nat) → List Char → Option (List (Option String × Document) × List Char)
  | 0, _ => none
  | fuel + 1, letters =>
    match skipGaps letters with
    | '"' :: rest => do
      let (name, rest) ← scanText rest
      match skipGaps rest with
      | ':' :: rest => do
        let (value, rest) ← scanValue fuel rest
        match skipGaps rest with
        | ',' :: rest => do
          let (fields, rest) ← scanFields fuel rest
          return ((name, value) :: fields, rest)
        | '\x7d' :: rest => return ([(name, value)], rest)
        | _ => none
      | _ => none
    | _ => none

end

/-- The document of a text. -/
def read? (text : String) : Option Document :=
  let letters := text.toList
  match scanValue (2 * letters.length + 1) letters with
  | some (document, rest) => if (skipGaps rest).isEmpty then some document else none
  | none => none

end ProviderRouting.Json
