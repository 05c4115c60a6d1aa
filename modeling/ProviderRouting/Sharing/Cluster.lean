import ProviderRouting.Sharing.Mirror
import ProviderRouting.Sharing.Store

/-!
# Clusters

A cluster is several banks over one shared store and one clock.  Followers watch the banks: each has
a queue of what its bank reported and publishes it in that order, at whatever time.  Pulling adopts
what others have published, and what a bank reports about that is queued like everything else.
-/

namespace ProviderRouting

/-- What publishes for a bank. -/
structure Follower where
  /-- The number of the bank. -/
  bank : Nat
  /-- By what it is known to others. -/
  id : InstanceId
  /-- What the bank reported and is not published yet, in order. -/
  queue : List Event
  /-- Whether it still watches the bank. -/
  watching : Bool
deriving Inhabited

/-- Several banks over one shared store. -/
structure Cluster where
  /-- The time. -/
  clock : Clock
  /-- The banks. -/
  banks : List Bank
  /-- The store. -/
  store : SharedStore
  /-- The followers. -/
  followers : List Follower
deriving Inhabited

namespace Cluster

/-- A cluster of fresh banks without followers. -/
def ofThresholds (count : Nat) (thresholds : Thresholds) (store : SharedStore) : Cluster where
  clock := .start
  banks := List.replicate count (.ofDefaults thresholds)
  store := store
  followers := []

/-- A bank by its number. -/
def bank (cluster : Cluster) (number : Nat) : Bank := (cluster.banks[number]?).getD default

/-- Move the clock forward. -/
def advance (duration : Duration) (cluster : Cluster) : Cluster :=
  { cluster with clock := cluster.clock.advance duration }

/-- Switch the store on or off. -/
def setAvailable (available : Bool) (cluster : Cluster) : Cluster :=
  { cluster with store := cluster.store.setAvailable available }

/-- Queue what a bank reported with everyone who watches it. -/
def queueEvents (number : Nat) (events : List Event) (followers : List Follower) :
    List Follower :=
  followers.map fun follower =>
    if follower.watching ∧ follower.bank = number then
      { follower with queue := follower.queue ++ events }
    else follower

/-- Replace a bank that has reported something. -/
def update (number : Nat) (bank : Bank) (events : List Event) (cluster : Cluster) : Cluster :=
  { cluster with
    banks := cluster.banks.set number bank
    followers := queueEvents number events cluster.followers }

/-- Carry out an operation on a bank. -/
def onBank (number : Nat) (operation : BankOperation) (cluster : Cluster) :
    Cluster × Bank.Outcome :=
  let outcome := (cluster.bank number).apply operation cluster.clock.moment
  (cluster.update number outcome.bank outcome.events, outcome)

/-- Publish a state to the store. -/
def publishState (provider : String) (state : SharedState) (cluster : Cluster) :
    Cluster × Except StoreFault Unit :=
  let (result, store) := cluster.store.publish provider state
  ({ cluster with store := store }, result)

/-- Publish what a bank reported.  Rejected calls are not told, and faults of the store are passed
over. -/
def publishEvent (id : InstanceId) (cluster : Cluster) (event : Event) : Cluster :=
  match event.notice with
  | .changed transition =>
    (cluster.publishState event.provider (Mirror.stateOf id transition)).1
  | .rejected => cluster

/-- Let a follower publish the first thing in its queue. -/
def publishNext (number : Nat) (cluster : Cluster) : Cluster :=
  match cluster.followers[number]? with
  | none => cluster
  | some follower =>
    match follower.queue with
    | [] => cluster
    | event :: rest =>
      publishEvent follower.id
        { cluster with followers := cluster.followers.set number { follower with queue := rest } }
        event

/-- Let a follower publish everything in its queue. -/
def publishQueue (cluster : Cluster) (number : Nat) : Cluster :=
  let queue := ((cluster.followers[number]?).getD default).queue
  queue.foldl (fun cluster _ => cluster.publishNext number) cluster

/-- Let every follower publish everything in its queue, one follower after the other. -/
def publishQueues (cluster : Cluster) : Cluster :=
  (List.range cluster.followers.length).foldl publishQueue cluster

/-- Let a bank adopt what others than the given instance have published. -/
def pull (number : Nat) (id : InstanceId) (cluster : Cluster) : Cluster × Mirror.PullOutcome :=
  let outcome :=
    Mirror.pull id cluster.clock.moment cluster.store.fetchAll (cluster.bank number)
  (cluster.update number outcome.bank outcome.events, outcome)

/-- Let a follower watch a bank.  It pulls once, and what the bank reports about that is the first
thing in its queue. -/
def follow (number : Nat) (id : InstanceId) (cluster : Cluster) :
    Cluster × Mirror.PullOutcome :=
  let follower : Follower := ⟨number, id, [], true⟩
  { cluster with followers := cluster.followers ++ [follower] }.pull number id

/-- Let a follower stop watching. -/
def unfollow (number : Nat) (cluster : Cluster) : Cluster :=
  { cluster with
    followers := cluster.followers.modify number fun follower =>
      { follower with watching := false, queue := [] } }

end Cluster

end ProviderRouting
