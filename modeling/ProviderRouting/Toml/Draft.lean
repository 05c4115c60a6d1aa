import ProviderRouting.Document.Basic

/-!
# Drafts of TOML documents

While a text is read its tables are kept in a draft, which remembers how each table came about: by
a header, as a step on the way to another table, or by a dotted key.  That decides whether it may
still be extended.  A header may define a table that was so far only a step; a dotted key may
extend only what a dotted key made.
-/

namespace ProviderRouting.Toml

/-- How a table came about. -/
inductive TableOrigin where
  /-- It has a header of its own. -/
  | header
  /-- It lies on the path of another table's header. -/
  | step
  /-- It lies on the path of a dotted key. -/
  | dotted
deriving DecidableEq

/-- What stands under a key. -/
inductive Entry where
  /-- A value that nothing can be added to. -/
  | value (document : Document)
  /-- A table. -/
  | table (origin : TableOrigin) (entries : List (String × Entry))
  /-- A list of tables. -/
  | tables (items : List (List (String × Entry)))

/-- The entries of a table. -/
abbrev Entries := List (String × Entry)

/-- A change of a table, which may be refused. -/
abbrev Change := TableOrigin → Entries → Option Entries

/-- What stands under a key. -/
def lookup (key : String) (entries : Entries) : Option Entry :=
  (entries.find? (·.1 = key)).map (·.2)

/-- Put an entry under a key, in the place of the old one or at the end. -/
def replace (key : String) (entry : Entry) : Entries → Entries
  | [] => [(key, entry)]
  | (name, old) :: rest =>
    if name = key then (key, entry) :: rest else (name, old) :: replace key entry rest

/-- Change the table at the end of a path.  Tables missing on the way are made with the given
origin; of a list of tables the last one is meant.  A path of dotted keys must not lead through a
table with a header. -/
def alter (made : TableOrigin) (change : Change) : (path : List String) → Change
  | [], origin, entries => change origin entries
  | key :: path, _, entries =>
    match lookup key entries with
    | none => do
      let child ← alter made change path made []
      return replace key (.table made child) entries
    | some (.value _) => none
    | some (.table origin child) =>
      if made = .dotted ∧ origin = .header then none
      else do
        let child ← alter made change path origin child
        return replace key (.table origin child) entries
    | some (.tables items) =>
      match items.getLast? with
      | some last => do
        let last ← alter made change path .header last
        return replace key (.tables (items.dropLast ++ [last])) entries
      | none => none

/-- Define the table under a key by its header. -/
def openTable (key : String) : Change := fun _ entries =>
  match lookup key entries with
  | none => some (replace key (.table .header []) entries)
  | some (.table .step child) => some (replace key (.table .header child) entries)
  | some _ => none

/-- Add a table to the list of tables under a key. -/
def openListed (key : String) : Change := fun _ entries =>
  match lookup key entries with
  | none => some (replace key (.tables [[]]) entries)
  | some (.tables items) => some (replace key (.tables (items ++ [[]])) entries)
  | some _ => none

/-- Give a new key a value.  The table must have been reached in the way it came about: by a dotted
key if and only if a dotted key made it. -/
def define (byDottedKey : Bool) (key : String) (value : Document) : Change := fun origin entries =>
  if byDottedKey ≠ decide (origin = .dotted) then none
  else if (lookup key entries).isSome then none
  else some (entries ++ [(key, .value value)])

/-- Give the key at the end of a dotted key a value. -/
def assign (path : List String) (key : String) (value : Document) : Change :=
  alter .dotted (define (!path.isEmpty) key value) path

mutual

/-- What an entry stands for. -/
def Entry.toDocument : Entry → Document
  | .value document => document
  | .table _ entries => .record (documentsOf entries)
  | .tables items => .list (recordsOf items)

/-- What the entries of a table stand for. -/
def documentsOf : List (String × Entry) → List (String × Document)
  | [] => []
  | (key, entry) :: rest => (key, entry.toDocument) :: documentsOf rest

/-- What the tables of a list stand for. -/
def recordsOf : List (List (String × Entry)) → List Document
  | [] => []
  | entries :: rest => .record (documentsOf entries) :: recordsOf rest

end

end ProviderRouting.Toml
