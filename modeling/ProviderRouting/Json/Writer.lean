import ProviderRouting.Document.Basic
import ProviderRouting.Json.Quoted
import ProviderRouting.Number.Notation

/-!
# Writing JSON

A document is written either without any blanks, or with every entry of a list or record on a line
of its own, indented by two blanks for each level.
-/

namespace ProviderRouting.Json

/-- A double; what is no finite number has no form of its own. -/
def writeFloat (value : Float) : String :=
  match Binary64.read value with
  | .finite .. => NumberStyle.inspect.write value
  | _ => "null"

mutual

/-- The text of a document without blanks. -/
def write : Document → String
  | .null | .nan _ | .unusable => "null"
  | .bool value => if value then "true" else "false"
  | .integer value => toString value
  | .float value => writeFloat value
  | .text value => quote value
  | .list items => "[" ++ ",".intercalate (writeItems items) ++ "]"
  | .record fields => "\x7b" ++ ",".intercalate (writeFields fields) ++ "\x7d"

/-- The texts of listed documents. -/
def writeItems : List Document → List String
  | [] => []
  | item :: rest => write item :: writeItems rest

/-- The texts of named documents. -/
def writeFields : List (String × Document) → List String
  | [] => []
  | (name, value) :: rest => (quote name ++ ":" ++ write value) :: writeFields rest

end

/-- Entries on lines of their own between brackets; nothing between them if there are none. -/
def block (opening closing indent : String) (entries : List String) : String :=
  if entries.isEmpty then opening ++ closing
  else opening ++ "\n" ++ ",\n".intercalate (entries.map fun entry => indent ++ "  " ++ entry)
    ++ "\n" ++ indent ++ closing

mutual

/-- The text of a document with entries on lines of their own, within a given indentation. -/
def writeIndented (indent : String) : Document → String
  | .list items => block "[" "]" indent (indentItems (indent ++ "  ") items)
  | .record fields => block "\x7b" "\x7d" indent (indentFields (indent ++ "  ") fields)
  | .null => write .null
  | .unusable => write .unusable
  | .nan negative => write (.nan negative)
  | .bool value => write (.bool value)
  | .integer value => write (.integer value)
  | .float value => write (.float value)
  | .text value => write (.text value)

/-- The texts of listed documents within a given indentation. -/
def indentItems (indent : String) : List Document → List String
  | [] => []
  | item :: rest => writeIndented indent item :: indentItems indent rest

/-- The texts of named documents within a given indentation. -/
def indentFields (indent : String) : List (String × Document) → List String
  | [] => []
  | (name, value) :: rest =>
    (quote name ++ ": " ++ writeIndented indent value) :: indentFields indent rest

end

/-- The text of a document with entries on lines of their own. -/
def writePretty (document : Document) : String := writeIndented "" document

end ProviderRouting.Json
