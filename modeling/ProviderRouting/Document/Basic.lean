/-!
# Documents

A document is the tree of values that a data text stands for, whatever its notation.  A value whose
form is right but which stands for nothing, such as a number out of range, is kept as `unusable`:
it does no harm where nobody looks at it.
-/

namespace ProviderRouting

/-- A tree of values. -/
inductive Document where
  /-- No value. -/
  | null
  /-- A truth value. -/
  | bool (value : Bool)
  /-- A whole number. -/
  | integer (value : Int)
  /-- A number written with a fraction or an exponent. -/
  | float (value : Float)
  /-- What is not a number, with the sign written before it. -/
  | nan (negative : Bool)
  /-- A text. -/
  | text (value : String)
  /-- Values in order. -/
  | list (items : List Document)
  /-- Named values in the order in which they were written. -/
  | record (fields : List (String × Document))
  /-- A value of the right form that stands for nothing. -/
  | unusable

namespace Document

instance : Inhabited Document := ⟨null⟩

mutual

/-- How deeply lists and records are nested in a document. -/
def depth : Document → Nat
  | list items => depthOfItems items + 1
  | record fields => depthOfFields fields + 1
  | _ => 0

/-- The greatest depth of listed documents. -/
def depthOfItems : List Document → Nat
  | [] => 0
  | item :: rest => max (depth item) (depthOfItems rest)

/-- The greatest depth of named documents. -/
def depthOfFields : List (String × Document) → Nat
  | [] => 0
  | (_, value) :: rest => max (depth value) (depthOfFields rest)

end

mutual

/-- Whether every value in a document stands for something. -/
def usable : Document → Bool
  | unusable => false
  | list items => usableItems items
  | record fields => usableFields fields
  | _ => true

/-- Whether listed documents are all usable. -/
def usableItems : List Document → Bool
  | [] => true
  | item :: rest => usable item && usableItems rest

/-- Whether named documents are all usable. -/
def usableFields : List (String × Document) → Bool
  | [] => true
  | (_, value) :: rest => usable value && usableFields rest

end

/-- A field of a record; null counts as missing. -/
def field? (document : Document) (name : String) : Option Document :=
  match document with
  | record fields =>
    match (fields.find? (·.1 = name)).map (·.2) with
    | some null => none
    | found => found
  | _ => none

/-- The text that a document is. -/
def asText? : Document → Option String
  | text value => some value
  | _ => none

/-- The whole number that a document is. -/
def asInteger? : Document → Option Int
  | integer value => some value
  | _ => none

/-- The truth value that a document is. -/
def asBool? : Document → Option Bool
  | bool value => some value
  | _ => none

/-- The values of a list; anything else has none. -/
def items : Document → List Document
  | list items => items
  | _ => []

/-- The fields of a record; anything else has none. -/
def fields : Document → List (String × Document)
  | record fields => fields
  | _ => []

/-- A list of texts. -/
def texts (values : List String) : Document := list (values.map text)

/-- A value that may be missing. -/
def ofOption {α : Type} (encode : α → Document) : Option α → Document
  | some value => encode value
  | none => null

/-- A whole number that is not negative. -/
def natural (value : Nat) : Document := integer value

end Document

end ProviderRouting
