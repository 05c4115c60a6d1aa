import ProviderRouting.Files.Fault
import ProviderRouting.Files.Path

/-!
# Access to files

What the rest needs of a file system, as a record of actions: so the same code runs on the real
files and on a model of them.
-/

namespace ProviderRouting

/-- Actions on the contents of one folder. -/
structure FolderAccess (m : Type → Type) where
  /-- Make the folder, and those around it, if it is not there. -/
  create : m (Except FileFault Unit)
  /-- The names of what is in it. -/
  list : m (Except FileFault (List String))
  /-- The text of a file in it. -/
  read : (name : String) → m (Except FileFault String)
  /-- Write a file in it. -/
  write : (name text : String) → m (Except FileFault Unit)
  /-- Move a file in it to another name. -/
  rename : (source target : String) → m (Except FileFault Unit)
  /-- Remove a file in it. -/
  remove : (name : String) → m (Except FileFault Unit)

/-- Actions on files anywhere. -/
structure FileAccess (m : Type → Type) where
  /-- Whether there is something at a path. -/
  exists? : (path : String) → m Bool
  /-- The text of a file. -/
  read : (path : String) → m (Except FileFault String)
  /-- The names of what is in a folder. -/
  list : (path : String) → m (Except FileFault (List String))
  /-- Make a folder, and those around it, if it is not there. -/
  createFolder : (path : String) → m (Except FileFault Unit)
  /-- Write a file. -/
  write : (path text : String) → m (Except FileFault Unit)
  /-- Move a file. -/
  rename : (source target : String) → m (Except FileFault Unit)
  /-- Remove a file. -/
  remove : (path : String) → m (Except FileFault Unit)

/-- Actions on the contents of the folder at a path. -/
def FileAccess.folder {m : Type → Type} (files : FileAccess m) (path : String) :
    FolderAccess m where
  create := files.createFolder path
  list := files.list path
  read name := files.read (Path.join path name)
  write name text := files.write (Path.join path name) text
  rename source target := files.rename (Path.join path source) (Path.join path target)
  remove name := files.remove (Path.join path name)

end ProviderRouting
