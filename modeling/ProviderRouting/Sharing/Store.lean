import ProviderRouting.Sharing.FolderStore
import ProviderRouting.Sharing.MemoryStore

/-!
# Shared stores

A shared store is kept in memory or in a folder.  Both keep the latest state of every provider.
-/

namespace ProviderRouting

/-- A shared store. -/
inductive SharedStore where
  /-- In memory. -/
  | memory (store : MemoryStore)
  /-- In a folder. -/
  | folder (folder : Folder)

namespace SharedStore

instance : Inhabited SharedStore := ⟨memory .empty⟩

/-- A temporary name that nothing in a folder has: among one more names than there are in the
folder, one is free. -/
def freshName (folder : Folder) : String :=
  let taken := folder.list.toOption.getD []
  let candidates := (List.range (taken.length + 1)).map (FolderStore.temporaryName ∘ toString)
  (candidates.find? (!taken.contains ·)).getD ""

/-- Publish the state of a provider. -/
def publish (provider : String) (state : SharedState) :
    SharedStore → Except StoreFault Unit × SharedStore
  | memory store =>
    let (result, store) := store.publish provider state
    (result, memory store)
  | folder contents =>
    let (result, contents) :=
      FolderStore.publish Folder.access (freshName contents) provider state contents
    (result, folder contents)

/-- The states of all providers. -/
def fetchAll : SharedStore → Except StoreFault (Table SharedState)
  | memory store => store.fetchAll
  | folder contents => (FolderStore.fetchAll Folder.access contents).1

/-- The number of providers with a state in memory. -/
def size : SharedStore → Nat
  | memory store => store.size
  | folder _ => 0

/-- Switch a store in memory on or off. -/
def setAvailable (available : Bool) : SharedStore → SharedStore
  | memory store => memory (store.setAvailable available)
  | folder contents => folder contents

end SharedStore

end ProviderRouting
