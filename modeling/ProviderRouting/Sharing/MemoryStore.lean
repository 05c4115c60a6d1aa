import ProviderRouting.Sharing.State
import ProviderRouting.Table

/-!
# Stores in memory

A store in memory is shared by the engines of one process.  It can be switched off, and then refuses
to be used and keeps what it holds.
-/

namespace ProviderRouting

/-- The published states by provider. -/
structure MemoryStore where
  /-- The states. -/
  states : Table SharedState
  /-- Whether the store can be reached. -/
  available : Bool
deriving Inhabited

namespace MemoryStore

/-- A store that holds nothing. -/
def empty : MemoryStore := ⟨.empty, true⟩

/-- Switch the store on or off. -/
def setAvailable (available : Bool) (store : MemoryStore) : MemoryStore :=
  { store with available := available }

/-- The number of providers with a state. -/
def size (store : MemoryStore) : Nat := store.states.size

/-- Keep a state unless a later one is there. -/
def place (provider : String) (state : SharedState) (states : Table SharedState) :
    Table SharedState :=
  match states.get? provider with
  | some old => if old.givesWayTo state then states.insert provider state else states
  | none => states.insert provider state

/-- Publish the state of a provider. -/
def publish (provider : String) (state : SharedState) (store : MemoryStore) :
    Except StoreFault Unit × MemoryStore :=
  if store.available then (.ok (), { store with states := place provider state store.states })
  else (.error .unavailable, store)

/-- The states of all providers. -/
def fetchAll (store : MemoryStore) : Except StoreFault (Table SharedState) :=
  if store.available then .ok store.states else .error .unavailable

end MemoryStore

end ProviderRouting
