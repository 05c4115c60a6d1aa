import ProviderRouting.Document.Basic
import ProviderRouting.Number.Binary64

/-!
# Decoding documents

Values of the domain are decoded from documents by one rule for structures: a structure is a record
of its named fields or the list of them in their fixed order.  Fields of other names do not count,
and a field may be named only once.  What a notation decides for itself is gathered in
`Conventions`.
-/

namespace ProviderRouting

namespace Document

/-- What the notations of documents do not have in common. -/
structure Conventions where
  /-- Whether a list with more values than the structure has fields is refused. -/
  refusesSurplus : Bool
  /-- Whether a value may stand beside the name of an alternative without content. -/
  isEmptyContent : Document → Bool
  /-- The most lists and records that may stand inside each other where a record is shared between
  structures; without one there is no bound. -/
  maxNesting : Option Nat

namespace Conventions

/-- Whether a document whose record is shared may have that many lists and records inside each
other. -/
def allowsNesting (conventions : Conventions) (depth : Nat) : Bool :=
  conventions.maxNesting.all (depth ≤ ·)

/-- The conventions of JSON. -/
def json : Conventions where
  refusesSurplus := true
  isEmptyContent
    | null => true
    | _ => false
  maxNesting := some 127

/-- The conventions of JSON for a field that shares its record with fields of another structure. -/
def sharedJson : Conventions where
  refusesSurplus := true
  isEmptyContent
    | null | record [] => true
    | _ => false
  maxNesting := some 127

/-- The conventions of TOML. -/
def toml : Conventions where
  refusesSurplus := false
  isEmptyContent
    | list [] | record [] => true
    | _ => false
  maxNesting := none

end Conventions

/-- A rule that makes a value of a document. -/
abbrev Decoder (α : Type) := Conventions → Document → Option α

/-- A truth value. -/
def toBool : Decoder Bool
  | _, bool value => some value
  | _, _ => none

/-- A text. -/
def toText : Decoder String
  | _, text value => some value
  | _, _ => none

/-- A whole number below a bound. -/
def toNatural (bound : Nat) : Decoder Nat
  | _, integer value => if 0 ≤ value ∧ value < bound then some value.toNat else none
  | _, _ => none

/-- A 32-bit word. -/
def toWord32 : Decoder UInt32 := fun conventions document =>
  (toNatural UInt32.size conventions document).map Nat.toUInt32

/-- A 64-bit word. -/
def toWord64 : Decoder UInt64 := fun conventions document =>
  (toNatural UInt64.size conventions document).map Nat.toUInt64

/-- A double; a whole number stands for the nearest one. -/
def toDouble : Decoder Float
  | _, float value => some value
  | _, nan _ => some (0.0 / 0.0)
  | _, integer value =>
    let size := Binary64.ofNat value.natAbs
    some (if value < 0 then -size else size)
  | _, _ => none

/-- A value that may be missing. -/
def toOption {α : Type} (decode : Decoder α) : Decoder (Option α) := fun conventions document =>
  match document with
  | null => some none
  | given => (decode conventions given).map some

/-- A list of values. -/
def toList {α : Type} (decode : Decoder α) : Decoder (List α) := fun conventions document =>
  match document with
  | list items => items.mapM (decode conventions)
  | _ => none

/-- Values by arbitrary names. -/
def toEntries {α : Type} (decode : Decoder α) : Decoder (List (String × α)) :=
  fun conventions document =>
    match document with
    | record fields => fields.mapM fun (name, value) => (decode conventions value).map (name, ·)
    | _ => none

/-- One of several alternatives without content, by its name. -/
def toAlternative {α : Type} (ofName? : String → Option α) : Decoder α :=
  fun conventions document =>
    match document with
    | text name => ofName? name
    | record [(name, content)] =>
      if conventions.isEmptyContent content then ofName? name else none
    | _ => none

/-- The fields of a structure that a document gives. -/
structure Members where
  /-- The given fields by name. -/
  given : List (String × Document)
  /-- Whether they were given by position. -/
  positional : Bool

/-- The names that stand more than once among the given ones. -/
def hasRepeat (names : List String) : Bool :=
  match names with
  | [] => false
  | name :: rest => rest.contains name || hasRepeat rest

/-- The fields that a record gives for a structure; other names do not count. -/
def recordMembers (names : List String) (fields : List (String × Document)) : Option Members :=
  let given := fields.filter fun field => names.contains field.1
  if hasRepeat (given.map (·.1)) then none else some ⟨given, false⟩

/-- The fields that a document gives for a structure with the given field names. -/
def members (names : List String) : Decoder Members := fun conventions document =>
  match document with
  | record fields => recordMembers names fields
  | list items =>
    if conventions.refusesSurplus && names.length < items.length then none
    else some ⟨names.zip items, true⟩
  | _ => none

namespace Members

/-- A field as a document. -/
def find? (members : Members) (name : String) : Option Document :=
  (members.given.find? (·.1 = name)).map (·.2)

variable {α : Type}

/-- A field that must be given. -/
def required (members : Members) (conventions : Conventions) (name : String)
    (decode : Decoder α) : Option α :=
  match members.find? name with
  | some value => decode conventions value
  | none => none

/-- A field with a value of its own for when it is not given. -/
def orElse (members : Members) (conventions : Conventions) (name : String)
    (decode : Decoder α) (standard : α) : Option α :=
  match members.find? name with
  | some value => decode conventions value
  | none => some standard

/-- A field that may be left out of a record. -/
def optional (members : Members) (conventions : Conventions) (name : String)
    (decode : Decoder α) : Option (Option α) :=
  match members.find? name with
  | some value => toOption decode conventions value
  | none => if members.positional then none else some none

end Members

end Document

end ProviderRouting
