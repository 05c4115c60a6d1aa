import ProviderRouting.Breaker.Document
import ProviderRouting.Files.Fault
import ProviderRouting.Sharing.InstanceId

/-!
# Shared breaker states

Instances tell each other in which phase their breakers are.  Of the states that instances publish
for one provider the one with the latest update counts, and of several with the same update the one
published last.
-/

namespace ProviderRouting

open Document

/-- The state of one breaker as an instance publishes it. -/
structure SharedState where
  /-- The phase. -/
  phase : Phase
  /-- When the breaker opened, if it is open. -/
  openedAt : Option Timestamp
  /-- When it came into this state. -/
  updatedAt : Timestamp
  /-- Who published it. -/
  instanceId : InstanceId
deriving DecidableEq

/-- Why a store of states does not do what it is asked. -/
inductive StoreFault where
  /-- The store cannot be reached. -/
  | unavailable
  /-- A stored entry cannot be read. -/
  | corrupt
  /-- A file or folder cannot be used. -/
  | files (fault : FileFault)
deriving DecidableEq

namespace StoreFault

/-- Why the store at a path does not do what it is asked, in words. -/
def message (path : String) : StoreFault → String
  | unavailable => "Shared state store unavailable: in-memory store marked unavailable"
  | corrupt => "Shared state encoding failed"
  | files fault => "Shared state I/O failed at " ++ path ++ ": " ++ fault.message

/-- The fault of a file that is behind it. -/
def fileFault? : StoreFault → Option FileFault
  | files fault => some fault
  | _ => none

end StoreFault

namespace SharedState

/-- Whether a state gives way to another one that is published after it. -/
def givesWayTo (old new : SharedState) : Bool := old.updatedAt ≤ new.updatedAt

theorem givesWayTo_iff {old new : SharedState} :
    old.givesWayTo new ↔ old.updatedAt ≤ new.updatedAt := decide_eq_true_iff

/-- An identifier, written as a text. -/
def decodeInstance : Decoder InstanceId := fun conventions document =>
  (toText conventions document).bind InstanceId.read?

/-- The names of the fields in their order. -/
def fieldNames : List String := ["phase", "opened_at", "updated_at", "instance_id"]

/-- A state from the fields that are given. -/
def ofMembers (conventions : Conventions) (members : Members) : Option SharedState := do
  return {
    phase := ← members.required conventions "phase" Phase.decode
    openedAt := ← members.optional conventions "opened_at" Timestamp.decode
    updatedAt := ← members.required conventions "updated_at" Timestamp.decode
    instanceId := ← members.required conventions "instance_id" decodeInstance }

/-- A state. -/
def decode : Decoder SharedState := fun conventions document => do
  ofMembers conventions (← members fieldNames conventions document)

/-- The fields of a state. -/
def fields (state : SharedState) : List (String × Document) :=
  [("phase", .text state.phase.code),
    ("opened_at", .ofOption (fun time => .text time.write) state.openedAt),
    ("updated_at", .text state.updatedAt.write),
    ("instance_id", .text state.instanceId.write)]

/-- The document of a state. -/
def encode (state : SharedState) : Document := .record state.fields

end SharedState

end ProviderRouting
