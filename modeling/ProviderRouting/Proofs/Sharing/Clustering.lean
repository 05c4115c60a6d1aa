import Mathlib.Data.List.Basic
import ProviderRouting.Proofs.Sharing.Mirroring
import ProviderRouting.Sharing.Cluster

/-!
# Clusters as fleets

A cluster over a store in memory, in which every bank has one follower, does what a fleet does of
which no pull is interrupted.  That holds as long as the clock of the cluster can show its wall
time; from then on its wall no longer moves forward.
-/

namespace ProviderRouting

/-- The follower of a member's bank. -/
def Member.follower (index : Nat) (member : Member) : Follower :=
  ⟨index, member.id, member.queue, true⟩

/-- One step of a cluster. -/
inductive ClusterStep where
  /-- The clock moves forward. -/
  | advance (duration : Duration)
  /-- Something is done locally with a bank. -/
  | operate (number : Nat) (operation : BankOperation) (isLocal : operation.IsLocal)
  /-- A follower publishes the first thing in its queue. -/
  | publish (number : Nat)
  /-- The store comes into reach or goes out of reach. -/
  | setAvailable (available : Bool)
  /-- A follower pulls for its bank. -/
  | pull (number : Nat)

/-- The step of a fleet that does the same. -/
def ClusterStep.onFleet : ClusterStep → FleetStep
  | advance duration => .pass duration duration
  | operate number operation isLocal => .operate number operation isLocal
  | publish number => .publish number
  | setAvailable available => .setAvailable available
  | pull number => .pull number

namespace Cluster

/-- Take one step. -/
def next (cluster : Cluster) : ClusterStep → Cluster
  | .advance duration => cluster.advance duration
  | .operate number operation _ => (cluster.onBank number operation).1
  | .publish number => cluster.publishNext number
  | .setAvailable available => cluster.setAvailable available
  | .pull number =>
    match cluster.followers[number]? with
    | some follower => (cluster.pull follower.bank follower.id).1
    | none => cluster

/-- Fresh banks over an empty store in memory, each with a follower of the given name. -/
def startFollowed (thresholds : Thresholds) (ids : List InstanceId) : Cluster :=
  { ofThresholds ids.length thresholds (.memory .empty) with
    followers := ids.mapIdx fun number id => ⟨number, id, [], true⟩ }

/-- A followed cluster after some steps. -/
def run (thresholds : Thresholds) (ids : List InstanceId) (steps : List ClusterStep) : Cluster :=
  steps.foldl next (startFollowed thresholds ids)

/-- A cluster shows what a fleet is. -/
structure Shows (cluster : Cluster) (fleet : Fleet) : Prop where
  /-- The clocks show the same. -/
  moment : cluster.clock.moment = fleet.moment
  /-- The banks are those of the members. -/
  banks : cluster.banks = fleet.members.map (·.bank)
  /-- The stores hold the same. -/
  store : cluster.store = .memory fleet.store
  /-- The followers are the mirrors of the members. -/
  followers : cluster.followers = fleet.members.mapIdx Member.follower

variable {cluster : Cluster} {fleet : Fleet} {number : Nat} {member : Member}

/-! ## Followers -/

theorem Shows.follower_eq (shown : cluster.Shows fleet) (number : Nat) :
    cluster.followers[number]? = (fleet.members[number]?).map (Member.follower number) := by
  rw [shown.followers, List.getElem?_mapIdx]

theorem Shows.bank_eq (shown : cluster.Shows fleet)
    (found : fleet.members[number]? = some member) : cluster.bank number = member.bank := by
  rw [bank, shown.banks, List.getElem?_map, found]
  rfl

theorem queueEvents_mapIdx {members : List Member} (found : members[number]? = some member)
    (bank : Bank) (events : List Event) :
    queueEvents number events (members.mapIdx Member.follower) =
      (members.set number (member.report bank events)).mapIdx Member.follower := by
  have bound := (List.getElem?_eq_some_iff.1 found).1
  refine List.ext_getElem? fun position => ?_
  rw [queueEvents, List.getElem?_map, List.getElem?_mapIdx, List.getElem?_mapIdx]
  by_cases here : number = position
  · subst here
    rw [List.getElem?_set_self bound, found]
    simp [Member.follower, Member.report]
  · rw [List.getElem?_set_ne here]
    cases members[position]? with
    | none => rfl
    | some other => simp [Member.follower, Ne.symm here]

theorem queueEvents_of_none {members : List Member} (missing : members[number]? = none)
    (events : List Event) :
    queueEvents number events (members.mapIdx Member.follower) =
      members.mapIdx Member.follower := by
  refine List.ext_getElem? fun position => ?_
  rw [queueEvents, List.getElem?_map, List.getElem?_mapIdx]
  cases found : members[position]? with
  | none => rfl
  | some other =>
      have elsewhere : position ≠ number := by
        rintro rfl
        exact absurd (found.symm.trans missing) nofun
      simp [Member.follower, elsewhere]

/-- A bank that did something, and its followers, show the member after it. -/
theorem Shows.update (shown : cluster.Shows fleet)
    (found : fleet.members[number]? = some member) (bank : Bank) (events : List Event) :
    (cluster.update number bank events).Shows
      (fleet.update number (member.report bank events)) where
  moment := shown.moment
  banks := by
    change cluster.banks.set number bank = List.map _ (fleet.members.set number _)
    rw [shown.banks, List.map_set]
    rfl
  store := shown.store
  followers := by
    change queueEvents number events cluster.followers = _
    rw [shown.followers]
    exact queueEvents_mapIdx found bank events

/-- What a bank that does not exist would do is seen by nobody. -/
theorem Shows.update_of_none (shown : cluster.Shows fleet)
    (missing : fleet.members[number]? = none) (bank : Bank) (events : List Event) :
    (cluster.update number bank events).Shows fleet where
  moment := shown.moment
  banks := by
    have outside : cluster.banks.length ≤ number := by
      rw [shown.banks, List.length_map]
      exact List.getElem?_eq_none_iff.1 missing
    exact (List.set_eq_of_length_le outside).trans shown.banks
  store := shown.store
  followers := by
    change queueEvents number events cluster.followers = _
    rw [shown.followers]
    exact queueEvents_of_none missing events

/-! ## Steps -/

theorem Shows.operate (shown : cluster.Shows fleet) (number : Nat) (operation : BankOperation) :
    (cluster.onBank number operation).1.Shows
      (fleet.onMember number (fleet.operate number operation)) := by
  unfold onBank
  cases found : fleet.members[number]? with
  | none =>
      rw [Fleet.onMember_of_none found]
      exact shown.update_of_none found _ _
  | some member =>
      rw [Fleet.onMember_of_some found, shown.bank_eq found, shown.moment]
      have updated := shown.update found (member.bank.apply operation fleet.moment).bank
        (member.bank.apply operation fleet.moment).events
      exact ⟨updated.moment, updated.banks, updated.store, updated.followers⟩

theorem Shows.pull (shown : cluster.Shows fleet) (number : Nat) :
    (cluster.next (.pull number)).Shows (fleet.onMember number (fleet.pull number)) := by
  unfold next
  dsimp only
  rw [shown.follower_eq]
  cases found : fleet.members[number]? with
  | none =>
      rw [Fleet.onMember_of_none found]
      exact shown
  | some member =>
      rw [Fleet.onMember_of_some found]
      unfold Cluster.pull
      dsimp only [Option.map_some, Member.follower]
      rw [shown.bank_eq found, shown.moment, shown.store]
      have updated := shown.update found
        (Mirror.pull member.id fleet.moment fleet.store.fetchAll member.bank).bank
        (Mirror.pull member.id fleet.moment fleet.store.fetchAll member.bank).events
      exact ⟨updated.moment, updated.banks, updated.store, updated.followers⟩

theorem Shows.publishEvent (shown : cluster.Shows fleet) (id : InstanceId) (event : Event) :
    (cluster.publishEvent id event).Shows
      { fleet with store := Fleet.publishEvent id event fleet.store } := by
  obtain ⟨provider, notice⟩ := event
  cases notice with
  | changed transition =>
      refine ⟨shown.moment, shown.banks, ?_, shown.followers⟩
      change (cluster.store.publish provider (Mirror.stateOf id transition)).2 = _
      rw [shown.store]
      rfl
  | rejected => exact shown

theorem Shows.dequeue (shown : cluster.Shows fleet)
    (found : fleet.members[number]? = some member) (rest : List Event) :
    ({ cluster with
        followers := cluster.followers.set number ⟨number, member.id, rest, true⟩ }).Shows
      (fleet.update number { member with queue := rest }) where
  moment := shown.moment
  banks := by
    have same : (fleet.members.map (·.bank))[number]? = some member.bank := by
      rw [List.getElem?_map, found]
      rfl
    obtain ⟨bound, there⟩ := List.getElem?_eq_some_iff.1 same
    change cluster.banks = List.map _ (fleet.members.set number _)
    rw [shown.banks, List.map_set, ← there, List.set_getElem_self]
  store := shown.store
  followers := by
    change cluster.followers.set number _ = List.mapIdx _ (fleet.members.set number _)
    rw [shown.followers, List.mapIdx_set]
    rfl

theorem Shows.publish (shown : cluster.Shows fleet) (number : Nat) :
    (cluster.publishNext number).Shows (fleet.onMember number (fleet.publish number)) := by
  unfold publishNext
  rw [shown.follower_eq]
  cases found : fleet.members[number]? with
  | none =>
      rw [Fleet.onMember_of_none found]
      exact shown
  | some member =>
      rw [Fleet.onMember_of_some found]
      dsimp only [Option.map_some, Member.follower]
      unfold Fleet.publish
      cases member.queue with
      | nil => exact shown
      | cons event rest => exact (shown.dequeue found rest).publishEvent member.id event

theorem moment_advance {clock : Clock} {duration : Duration}
    (limit : (clock.advance duration).elapsed ≤ Clock.wallLimit) :
    (clock.advance duration).moment =
      ⟨clock.moment.instant + duration, clock.moment.wall.after duration⟩ := by
  have earlier : clock.elapsed ≤ Clock.wallLimit := Nat.le_trans (Nat.le_add_right _ _) limit
  rw [Clock.moment, Clock.moment, if_pos limit, if_pos earlier, Timestamp.after_ofNanoseconds,
    Int.add_assoc]
  rfl

/-! ## Runs -/

theorem clock_publishNext (cluster : Cluster) (number : Nat) :
    (cluster.publishNext number).clock = cluster.clock := by
  unfold publishNext
  split
  · rfl
  · split
    · rfl
    · unfold publishEvent
      split <;> rfl

theorem elapsed_le_next (cluster : Cluster) (step : ClusterStep) :
    cluster.clock.elapsed ≤ (cluster.next step).clock.elapsed := by
  cases step with
  | advance duration => exact Nat.le_add_right _ _
  | operate number operation isLocal => exact Nat.le_refl _
  | publish number =>
      exact Nat.le_of_eq (congrArg Clock.elapsed (clock_publishNext cluster number).symm)
  | setAvailable available => exact Nat.le_refl _
  | pull number =>
      unfold next
      dsimp only
      split <;> exact Nat.le_refl _

theorem Shows.next (shown : cluster.Shows fleet) (step : ClusterStep)
    (limit : (cluster.next step).clock.elapsed ≤ Clock.wallLimit) :
    (cluster.next step).Shows (fleet.next step.onFleet) := by
  cases step with
  | advance duration =>
      refine ⟨?_, shown.banks, shown.store, shown.followers⟩
      exact (moment_advance limit).trans (by rw [shown.moment]; rfl)
  | operate number operation isLocal => exact shown.operate number operation
  | publish number => exact shown.publish number
  | setAvailable available =>
      refine ⟨shown.moment, shown.banks, ?_, shown.followers⟩
      exact (congrArg (SharedStore.setAvailable available) shown.store).trans rfl
  | pull number => exact shown.pull number

theorem shows_startFollowed (thresholds : Thresholds) (ids : List InstanceId) :
    (startFollowed thresholds ids).Shows
      (Fleet.start Clock.start.moment (ids.map fun id => (id, thresholds))) where
  moment := rfl
  banks := by simp [startFollowed, ofThresholds, Fleet.start, Function.comp_def]
  store := rfl
  followers := by
    refine List.ext_getElem? fun number => ?_
    simp only [startFollowed, Fleet.start, List.getElem?_mapIdx, List.getElem?_map,
      Option.map_map]
    rfl

/-- As long as a cluster's clock can show its wall time, the cluster shows a fleet that has done the
same. -/
theorem shows_run (thresholds : Thresholds) (ids : List InstanceId) (steps : List ClusterStep)
    (limit : (run thresholds ids steps).clock.elapsed ≤ Clock.wallLimit) :
    (run thresholds ids steps).Shows
      (Fleet.run Clock.start.moment (ids.map fun id => (id, thresholds))
        (steps.map ClusterStep.onFleet)) := by
  induction steps using List.reverseRecOn with
  | nil => exact shows_startFollowed thresholds ids
  | append_singleton steps step ih =>
      rw [run, List.foldl_append] at limit ⊢
      rw [Fleet.run, List.map_append, List.foldl_append]
      have earlier : (run thresholds ids steps).clock.elapsed ≤ Clock.wallLimit :=
        Nat.le_trans (elapsed_le_next _ step) limit
      exact (ih earlier).next step limit

end Cluster

end ProviderRouting
