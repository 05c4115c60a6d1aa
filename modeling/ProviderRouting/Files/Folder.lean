import ProviderRouting.Files.Access
import ProviderRouting.Table

/-!
# Folders as values

A folder is modelled by its contents: files with their bytes, and other folders of which only their
presence matters.  The folder may be missing, or a plain file may be in its place.
-/

namespace ProviderRouting

/-- What can be in a folder. -/
inductive FolderItem where
  /-- A file. -/
  | file (bytes : ByteArray)
  /-- Another folder. -/
  | folder

/-- The state of a folder. -/
inductive Folder where
  /-- It is not there. -/
  | missing
  /-- A plain file is in its place. -/
  | blocked
  /-- It is there and holds these items. -/
  | present (items : Table FolderItem)
deriving Inhabited

namespace Folder

/-- The most bytes that a name may have. -/
def maxNameBytes : Nat := 255

/-- The fault of a name that cannot be used for something in a folder. -/
def nameFault (name : String) : Option FileFault :=
  if name.toList.contains '\x00' then some .zeroInName
  else if maxNameBytes < name.utf8ByteSize then some .nameTooLong
  else if name.toList.contains '/' then some .missing
  else if name = "" ∨ name = "." ∨ name = ".." then some .isFolder
  else none

/-- The items of a folder that is there. -/
def items : Folder → Except FileFault (Table FolderItem)
  | missing => .error .missing
  | blocked => .error .notFolder
  | present items => .ok items

/-- The items of a folder that is there, if a name can be used in it. -/
def itemsFor (name : String) (folder : Folder) : Except FileFault (Table FolderItem) :=
  match folder.items, nameFault name with
  | .error fault, _ => .error fault
  | .ok _, some fault => .error fault
  | .ok items, none => .ok items

/-- Make the folder if it is not there. -/
def create : Folder → Except FileFault Unit × Folder
  | missing => (.ok (), present .empty)
  | blocked => (.error .occupied, blocked)
  | present items => (.ok (), present items)

/-- The names of the items. -/
def list (folder : Folder) : Except FileFault (List String) := folder.items.map (·.names)

/-- The text of a file. -/
def read (name : String) (folder : Folder) : Except FileFault String :=
  match folder.itemsFor name with
  | .error fault => .error fault
  | .ok items =>
    match items.get? name with
    | none => .error .missing
    | some .folder => .error .isFolder
    | some (.file bytes) =>
      match String.fromUTF8? bytes with
      | some text => .ok text
      | none => .error .notText

/-- Write a file. -/
def write (name : String) (bytes : ByteArray) (folder : Folder) :
    Except FileFault Unit × Folder :=
  match folder.itemsFor name with
  | .error fault => (.error fault, folder)
  | .ok items =>
    match items.get? name with
    | some .folder => (.error .isFolder, folder)
    | _ => (.ok (), present (items.insert name (.file bytes)))

/-- Move a file to another name, in place of a file that has it. -/
def rename (source target : String) (folder : Folder) : Except FileFault Unit × Folder :=
  match folder.itemsFor source, nameFault target with
  | .error fault, _ => (.error fault, folder)
  | .ok _, some fault => (.error fault, folder)
  | .ok items, none =>
    match items.get? source, items.get? target with
    | none, _ => (.error .missing, folder)
    | some (.file _), some .folder => (.error .isFolder, folder)
    | some .folder, some (.file _) => (.error .notFolder, folder)
    | some item, _ => (.ok (), present ((items.erase source).insert target item))

/-- Remove a file. -/
def remove (name : String) (folder : Folder) : Except FileFault Unit × Folder :=
  match folder.itemsFor name with
  | .error fault => (.error fault, folder)
  | .ok items =>
    match items.get? name with
    | none => (.error .missing, folder)
    | some .folder => (.error .isFolder, folder)
    | some (.file _) => (.ok (), present (items.erase name))

/-- Remove whatever has a name, if anything has it. -/
def removeAny (name : String) : Folder → Folder
  | present items => present (items.erase name)
  | folder => folder

/-- Make a folder inside. -/
def createInside (name : String) (folder : Folder) : Except FileFault Unit × Folder :=
  match folder.itemsFor name with
  | .error fault => (.error fault, folder)
  | .ok items =>
    if items.contains name then (.error .occupied, folder)
    else (.ok (), present (items.insert name .folder))

/-- The actions on a folder that is kept as a state. -/
def access : FolderAccess (StateM Folder) where
  create folder := folder.create
  list folder := (folder.list, folder)
  read name folder := (folder.read name, folder)
  write name text folder := folder.write name text.toUTF8
  rename source target folder := folder.rename source target
  remove name folder := folder.remove name

end Folder

end ProviderRouting
