import ProviderRouting.Catalog.Document
import ProviderRouting.Files.Access

/-!
# Loading catalogs

Catalogs are loaded from files.
-/

namespace ProviderRouting.Catalog

/-- Why a catalog cannot be loaded. -/
inductive LoadFault where
  /-- Its file cannot be read. -/
  | unreadable (fault : FileFault)
  /-- Its text is refused. -/
  | refused (fault : Fault)
deriving DecidableEq

namespace LoadFault

/-- Why the catalog at a path cannot be loaded, in words. -/
def message (path : String) : LoadFault → String
  | unreadable fault => "Failed to read catalog at " ++ path ++ ": " ++ fault.message
  | refused fault => fault.message

/-- The fault of a file that is behind it. -/
def fileFault? : LoadFault → Option FileFault
  | unreadable fault => some fault
  | refused _ => none

end LoadFault

/-- Load a catalog. -/
def load {m : Type → Type} [Monad m] (files : FileAccess m) (path : String) :
    m (Except LoadFault (List Model)) := do
  match ← files.read path with
  | .error fault => return .error (.unreadable fault)
  | .ok content =>
    match read content with
    | .error fault => return .error (.refused fault)
    | .ok models => return .ok models

end ProviderRouting.Catalog
