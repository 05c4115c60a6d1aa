import ProviderRouting.Files.Folder
import ProviderRouting.Json.Reader
import ProviderRouting.Json.Writer
import ProviderRouting.Sharing.EntryName
import ProviderRouting.Sharing.State

/-!
# Stores in folders

A store in a folder is shared by the processes of one host.  Every provider has a file of its own,
which is written under a temporary name and moved into place, so nobody reads half an entry.  In
fetching, files that cannot be read as entries are passed over.
-/

namespace ProviderRouting

open Document

/-- What one file of a store holds. -/
structure StoreEntry where
  /-- The provider. -/
  provider : String
  /-- The state of its breaker. -/
  state : SharedState

namespace StoreEntry

/-- An entry, which must be a record.  Fields of other names must have usable values. -/
def decode (document : Document) : Option StoreEntry :=
  match document with
  | .record fields => do
    let own ← recordMembers ["provider"] fields
    let provider ← own.required .json "provider" toText
    if !document.usable ∨ !Conventions.json.allowsNesting document.depth then none
    let shared ← recordMembers SharedState.fieldNames fields
    let state ← SharedState.ofMembers .sharedJson shared
    return ⟨provider, state⟩
  | _ => none

/-- The entry that a file's text writes. -/
def read? (text : String) : Option StoreEntry := (Json.read? text).bind decode

/-- The text of an entry's file. -/
def write (entry : StoreEntry) : String :=
  Json.writePretty (.record (("provider", .text entry.provider) :: entry.state.fields))

end StoreEntry

namespace FolderStore

variable {m : Type → Type} [Monad m]

/-- Read an entry; `none` if there is no file of that name. -/
def readEntry (folder : FolderAccess m) (name : String) :
    m (Except StoreFault (Option StoreEntry)) := do
  match ← folder.read name with
  | .ok content =>
    match StoreEntry.read? content with
    | some entry => return .ok (some entry)
    | none => return .error .corrupt
  | .error .missing => return .ok none
  | .error fault => return .error (.files fault)

/-- Write an entry under a temporary name and move it into place. -/
def replaceEntry (folder : FolderAccess m) (temporary : String) (entry : StoreEntry) :
    m (Except StoreFault Unit) := do
  match ← folder.write temporary entry.write with
  | .error fault => return .error (.files fault)
  | .ok () =>
    match ← folder.rename temporary (EntryName.ofProvider entry.provider) with
    | .ok () => return .ok ()
    | .error fault => do
      let _ ← folder.remove temporary
      return .error (.files fault)

/-- Publish the state of a provider, unless a later one is there.  The temporary name must be that
of no file. -/
def publish (folder : FolderAccess m) (temporary provider : String) (state : SharedState) :
    m (Except StoreFault Unit) := do
  match ← folder.create with
  | .error fault => return .error (.files fault)
  | .ok () =>
    match ← readEntry folder (EntryName.ofProvider provider) with
    | .error fault => return .error fault
    | .ok (some old) =>
      if old.state.givesWayTo state then replaceEntry folder temporary ⟨provider, state⟩
      else return .ok ()
    | .ok none => replaceEntry folder temporary ⟨provider, state⟩

/-- Add the entry of a file to the states, if it can be read. -/
def collect (folder : FolderAccess m) (states : Table SharedState) (name : String) :
    m (Table SharedState) := do
  match ← readEntry folder name with
  | .ok (some entry) => return states.insert entry.provider entry.state
  | _ => return states

/-- The states of all providers; a missing folder holds none. -/
def fetchAll (folder : FolderAccess m) : m (Except StoreFault (Table SharedState)) := do
  match ← folder.list with
  | .ok names =>
    let states ← (names.filter EntryName.isEntry).foldlM (collect folder) .empty
    return .ok states
  | .error .missing => return .ok .empty
  | .error fault => return .error (.files fault)

/-- The name under which an entry is written first. -/
def temporaryName (token : String) : String := "." ++ token ++ ".tmp"

end FolderStore

end ProviderRouting
