import ProviderRouting.Proofs.Breaker.Turning
import ProviderRouting.Sharing.MemoryStore
import ProviderRouting.Sharing.Mirror

/-!
# Mirrored breakers

Any number of banks, each with a mirror, share a store in memory and a clock that moves forward.
Nothing is reset.  However their operations, publications and pulls follow one another, and whenever
the store is out of reach: what is published or adopted as an opening is an opening that a failed
call caused in one of the banks, and no bank adopts one twice.

Pulling is taken apart: what is fetched may be adopted at any later time, in any order and more than
once, while everything else goes on.  A pull without interruption is one case of that.
-/

namespace ProviderRouting

/-- An opening that the bank of a member reported. -/
structure Sighting where
  /-- The number of the member. -/
  index : Nat
  /-- The provider. -/
  provider : String
  /-- The wall time of the opening. -/
  wall : Timestamp
deriving DecidableEq

/-- The openings among what the bank of a member reported. -/
def sightings (index : Nat) (events : List Event) : List Sighting :=
  events.filterMap fun event =>
    match event.notice with
    | .changed transition =>
      if transition.target = .opened then some ⟨index, event.provider, transition.wall⟩ else none
    | .rejected => none

/-- A bank with its mirror. -/
structure Member where
  /-- By what the mirror is known to others. -/
  id : InstanceId
  /-- The bank. -/
  bank : Bank
  /-- What the bank reported and is not published yet, in order. -/
  queue : List Event
  /-- What was fetched from the store. -/
  fetched : List (String × SharedState)

/-- A member whose bank has done something. -/
def Member.report (bank : Bank) (events : List Event) (member : Member) : Member :=
  { member with bank := bank, queue := member.queue ++ events }

/-- Several banks that share a store and a clock. -/
structure Fleet where
  /-- What the clock shows. -/
  moment : Moment
  /-- The members. -/
  members : List Member
  /-- The store. -/
  store : MemoryStore
  /-- The openings that failed calls have caused, oldest first. -/
  openings : List Sighting
  /-- The openings that members have adopted, oldest first. -/
  adoptions : List Sighting

/-- One step of a fleet. -/
inductive FleetStep where
  /-- Both readings of the clock move forward. -/
  | pass (instant wall : Duration)
  /-- Something is done locally with the bank of a member. -/
  | operate (index : Nat) (operation : BankOperation) (isLocal : operation.IsLocal)
  /-- A member publishes the first thing in its queue. -/
  | publish (index : Nat)
  /-- The store comes into reach or goes out of reach. -/
  | setAvailable (available : Bool)
  /-- A member fetches what the store holds. -/
  | fetch (index : Nat)
  /-- A member may adopt one of the states that it has fetched. -/
  | adopt (index position : Nat)
  /-- A member fetches what the store holds and may adopt all of it at once. -/
  | pull (index : Nat)

namespace Fleet

/-- Replace a member. -/
def update (index : Nat) (member : Member) (fleet : Fleet) : Fleet :=
  { fleet with members := fleet.members.set index member }

/-- Let a member act, if there is such a member. -/
def onMember (index : Nat) (act : Member → Fleet) (fleet : Fleet) : Fleet :=
  match fleet.members[index]? with
  | some member => act member
  | none => fleet

/-- Carry out an operation on the bank of a member. -/
def operate (index : Nat) (operation : BankOperation) (fleet : Fleet) (member : Member) : Fleet :=
  let outcome := member.bank.apply operation fleet.moment
  let opened :=
    match operation with
    | .record _ false => sightings index outcome.events
    | _ => []
  { fleet.update index (member.report outcome.bank outcome.events) with
    openings := fleet.openings ++ opened }

/-- Publish what a bank reported.  Rejected calls are not told, and faults of the store are passed
over. -/
def publishEvent (id : InstanceId) (event : Event) (store : MemoryStore) : MemoryStore :=
  match event.notice with
  | .changed transition => (store.publish event.provider (Mirror.stateOf id transition)).2
  | .rejected => store

/-- Publish the first thing in the queue of a member. -/
def publish (index : Nat) (fleet : Fleet) (member : Member) : Fleet :=
  match member.queue with
  | [] => fleet
  | event :: rest =>
    { fleet.update index { member with queue := rest } with
      store := publishEvent member.id event fleet.store }

/-- Fetch what the store holds. -/
def fetch (index : Nat) (fleet : Fleet) (member : Member) : Fleet :=
  match fleet.store.fetchAll with
  | .ok states => fleet.update index { member with fetched := member.fetched ++ states.entries }
  | .error _ => fleet

/-- Take over what pulling has left of the bank of a member. -/
def absorb (index : Nat) (outcome : Mirror.PullOutcome) (fleet : Fleet) (member : Member) : Fleet :=
  { fleet.update index (member.report outcome.bank outcome.events) with
    adoptions := fleet.adoptions ++ sightings index outcome.events }

/-- Let a member adopt the opening in a state, if there is one to adopt. -/
def adopt (index : Nat) (entry : String × SharedState) (fleet : Fleet) (member : Member) : Fleet :=
  fleet.absorb index
    (Mirror.adoptState member.id fleet.moment ⟨member.bank, 0, []⟩ entry.1 entry.2) member

/-- Let a member pull. -/
def pull (index : Nat) (fleet : Fleet) (member : Member) : Fleet :=
  fleet.absorb index
    (Mirror.pull member.id fleet.moment fleet.store.fetchAll member.bank) member

/-- Take one step. -/
def next (fleet : Fleet) : FleetStep → Fleet
  | .pass instant wall =>
    { fleet with moment := ⟨fleet.moment.instant + instant, fleet.moment.wall.after wall⟩ }
  | .operate index operation _ => fleet.onMember index (fleet.operate index operation)
  | .publish index => fleet.onMember index (fleet.publish index)
  | .setAvailable available => { fleet with store := fleet.store.setAvailable available }
  | .fetch index => fleet.onMember index (fleet.fetch index)
  | .adopt index position => fleet.onMember index fun member =>
    match member.fetched[position]? with
    | some entry => fleet.adopt index entry member
    | none => fleet
  | .pull index => fleet.onMember index (fleet.pull index)

/-- Members without breakers, under the given names and with the given thresholds, and an empty
store. -/
def start (moment : Moment) (members : List (InstanceId × Thresholds)) : Fleet where
  moment := moment
  members := members.map fun (id, thresholds) => ⟨id, .ofDefaults thresholds, [], []⟩
  store := .empty
  openings := []
  adoptions := []

/-- A fleet after some steps. -/
def run (moment : Moment) (members : List (InstanceId × Thresholds)) (steps : List FleetStep) :
    Fleet :=
  steps.foldl next (start moment members)

/-- A failed call caused an opening of a provider's breaker, not later than now. -/
def Genuine (fleet : Fleet) (provider : String) (wall : Timestamp) : Prop :=
  wall ≤ fleet.moment.wall ∧
    ∃ opening ∈ fleet.openings, opening.provider = provider ∧ opening.wall = wall

end Fleet

/-- A state is not that of an open breaker, or it says when that was opened, truly. -/
def SharedState.IsTrue (state : SharedState) (genuine : Timestamp → Prop) : Prop :=
  state.phase = .opened → ∃ wall, state.openedAt = some wall ∧ genuine wall

/-! ## What a member keeps -/

/-- What a member has to tell and what it remembers of openings is true. -/
structure Member.Sound (genuine : String → Timestamp → Prop) (now : Timestamp) (member : Member) : Prop where
  /-- The openings that it will publish are true. -/
  queued : ∀ event ∈ member.queue, ∀ transition, event.notice = .changed transition →
    transition.target = .opened → genuine event.provider transition.wall
  /-- The openings that it has fetched are true. -/
  fetched : ∀ entry ∈ member.fetched, entry.2.IsTrue (genuine entry.1)
  /-- Its open breakers know when they were opened. -/
  opened : ∀ provider, (member.bank.mark provider).phase = .opened →
    ∃ wall, (member.bank.mark provider).openedWall = some wall ∧ genuine provider wall
  /-- Its breakers have not changed since now. -/
  past : ∀ provider change, (member.bank.mark provider).lastChange = some change → change ≤ now

namespace Member

variable {genuine : String → Timestamp → Prop} {now : Timestamp} {member : Member}

theorem report_bank (bank : Bank) (events : List Event) (member : Member) :
    (member.report bank events).bank = bank := rfl

theorem Sound.mono {also : String → Timestamp → Prop} {later : Timestamp} (sound : member.Sound genuine now)
    (implies : ∀ provider wall, genuine provider wall → also provider wall) (passed : now ≤ later) :
    member.Sound also later where
  queued event among transition changed opened :=
    implies _ _ (sound.queued event among transition changed opened)
  fetched entry among opened := by
    obtain ⟨wall, openedAt, truthful⟩ := sound.fetched entry among opened
    exact ⟨wall, openedAt, implies _ _ truthful⟩
  opened provider isOpen := by
    obtain ⟨wall, openedWall, truthful⟩ := sound.opened provider isOpen
    exact ⟨wall, openedWall, implies _ _ truthful⟩
  past provider change changed := (sound.past provider change changed).trans passed

/-- A bank that turns a breaker at a time that is past, and opens it truly, keeps its member
sound. -/
theorem Sound.report {may : String → Phase → Timestamp → Prop} {bank : Bank} {events : List Event}
    (sound : member.Sound genuine now) (turns : member.bank.Turns may bank events)
    (past : ∀ provider target wall, may provider target wall → wall ≤ now)
    (opens : ∀ provider wall, may provider .opened wall → genuine provider wall) :
    (member.report bank events).Sound genuine now := by
  cases turns with
  | still marks silent =>
      refine ⟨?_, sound.fetched, ?_, ?_⟩
      · intro event among transition changed
        rcases List.mem_append.1 among with earlier | new
        · exact sound.queued event earlier transition changed
        · exact absurd ((silent event new).symm.trans changed) nofun
      · intro provider
        rw [report_bank, marks]
        exact sound.opened provider
      · intro provider
        rw [report_bank, marks]
        exact sound.past provider
  | turned provider origin target wall allowed marks told =>
      refine ⟨?_, sound.fetched, ?_, ?_⟩
      · intro event among transition changed opened
        rcases List.mem_append.1 among with earlier | new
        · exact sound.queued event earlier transition changed opened
        · rw [told, List.mem_singleton] at new
          subst new
          obtain rfl := Notice.changed.inj changed
          obtain rfl : target = .opened := opened
          exact opens provider wall allowed
      · intro name
        rw [report_bank, marks]
        split
        · rename_i here
          subst here
          rintro (rfl : target = .opened)
          exact ⟨wall, rfl, opens provider wall allowed⟩
        · exact sound.opened name
      · intro name change
        rw [report_bank, marks]
        split
        · rintro ⟨⟩
          exact past provider target wall allowed
        · exact sound.past name change

end Member

namespace Bank

theorem Turns.exists_later {bank after : Bank} {may : String → Phase → Timestamp → Prop}
    {events : List Event} (turns : bank.Turns may after events)
    (forward : ∀ provider target wall, may provider target wall →
      ∀ change, (bank.mark provider).lastChange = some change → change ≤ wall)
    {provider : String} {change : Timestamp} (changed : (bank.mark provider).lastChange = some change) :
    ∃ later, (after.mark provider).lastChange = some later ∧ change ≤ later := by
  cases turns with
  | still marks silent =>
      rw [marks]
      exact ⟨change, changed, le_rfl⟩
  | turned name origin target wall allowed marks told =>
      rw [marks]
      split
      · rename_i here
        subst here
        exact ⟨wall, rfl, forward name target wall allowed change changed⟩
      · exact ⟨change, changed, le_rfl⟩

end Bank

/-! ## What the store keeps -/

theorem MemoryStore.mem_publish {provider : String} {state : SharedState} {store : MemoryStore}
    {entry : String × SharedState}
    (member : entry ∈ (store.publish provider state).2.states.entries) :
    entry = (provider, state) ∨ entry ∈ store.states.entries := by
  unfold publish at member
  split at member
  · dsimp only at member
    unfold place at member
    split at member
    · split at member
      · exact Table.mem_place member
      · exact .inr member
    · exact Table.mem_place member
  · exact .inr member

theorem Mirror.isTrue_stateOf {genuine : Timestamp → Prop} {transition : Transition} (id : InstanceId)
    (truthful : transition.target = .opened → genuine transition.wall) :
    (Mirror.stateOf id transition).IsTrue genuine := by
  intro opened
  have opened : transition.target = .opened := opened
  exact ⟨transition.wall, if_pos opened, truthful opened⟩

theorem Mirror.genuine_of_opening {genuine : Timestamp → Prop} {state : SharedState}
    {id : InstanceId} {opened : Timestamp} (truthful : state.IsTrue genuine)
    (opening : Mirror.opening? id state = some opened) : genuine opened := by
  unfold opening? at opening
  split at opening
  · exact absurd opening nofun
  · rename_i foreign
    obtain ⟨-, isOpen⟩ := not_or.1 foreign
    obtain ⟨wall, openedAt, genuine⟩ := truthful (not_not.1 isOpen)
    obtain rfl : wall = opened := Option.some.inj (openedAt.symm.trans opening)
    exact genuine

/-- A bank that is shown a true state opens no breaker but truly, and none that has changed
since. -/
theorem Mirror.turns_adoptState {genuine : String → Timestamp → Prop} {provider : String}
    {state : SharedState} (truthful : state.IsTrue (genuine provider)) (id : InstanceId)
    (moment : Moment) (bank : Bank) :
    bank.Turns (fun name target wall => target = .opened ∧ genuine name wall ∧
        ∀ change, (bank.mark name).lastChange = some change → change < wall)
      (Mirror.adoptState id moment ⟨bank, 0, []⟩ provider state).bank
      (Mirror.adoptState id moment ⟨bank, 0, []⟩ provider state).events := by
  unfold adoptState
  split
  · exact .still (fun _ => rfl) nofun
  · rename_i opened opening
    refine (bank.turns_adopt moment provider opened).imp ?_
    rintro name _ target wall - ⟨rfl, isOpen, rfl, later⟩
    exact ⟨isOpen, genuine_of_opening truthful opening, later⟩

/-! ## What a fleet keeps -/

namespace Fleet

/-- What a fleet tells and remembers of openings is true, and none was adopted twice. -/
structure Sound (fleet : Fleet) : Prop where
  /-- The members are sound. -/
  members : ∀ member ∈ fleet.members, member.Sound fleet.Genuine fleet.moment.wall
  /-- The openings in the store are true. -/
  stored : ∀ entry ∈ fleet.store.states.entries, entry.2.IsTrue (fleet.Genuine entry.1)
  /-- The adopted openings are true. -/
  adopted : ∀ adoption ∈ fleet.adoptions, fleet.Genuine adoption.provider adoption.wall
  /-- The breakers that adopted them have not changed before. -/
  remembered : ∀ adoption ∈ fleet.adoptions, ∃ member,
    fleet.members[adoption.index]? = some member ∧ ∃ change,
      (member.bank.mark adoption.provider).lastChange = some change ∧ adoption.wall ≤ change
  /-- None was adopted twice by one member. -/
  once : fleet.adoptions.Nodup

variable {fleet : Fleet} {index : Nat} {member : Member}

theorem sound_start (moment : Moment) (members : List (InstanceId × Thresholds)) :
    (start moment members).Sound where
  members := by
    intro member among
    obtain ⟨⟨id, thresholds⟩, -, rfl⟩ := List.mem_map.1 among
    exact ⟨nofun, nofun, nofun, nofun⟩
  stored := nofun
  adopted := nofun
  remembered := nofun
  once := .nil

theorem onMember_of_some (found : fleet.members[index]? = some member) (act : Member → Fleet) :
    fleet.onMember index act = act member := by
  rw [onMember, found]

theorem onMember_of_none (missing : fleet.members[index]? = none) (act : Member → Fleet) :
    fleet.onMember index act = fleet := by
  rw [onMember, missing]

theorem Sound.onMember {act : Member → Fleet} (sound : fleet.Sound)
    (kept : ∀ member, fleet.members[index]? = some member → (act member).Sound) :
    (fleet.onMember index act).Sound := by
  cases found : fleet.members[index]? with
  | none =>
      rw [onMember_of_none found]
      exact sound
  | some member =>
      rw [onMember_of_some found]
      exact kept member found

theorem Genuine.mono {after : Fleet} {provider : String} {wall : Timestamp}
    (genuine : fleet.Genuine provider wall) (passed : fleet.moment.wall ≤ after.moment.wall)
    (openings : fleet.openings ⊆ after.openings) : after.Genuine provider wall := by
  obtain ⟨past, opening, logged, about⟩ := genuine
  exact ⟨past.trans passed, opening, openings logged, about⟩

theorem Sound.mono {after : Fleet} (sound : fleet.Sound)
    (passed : fleet.moment.wall ≤ after.moment.wall) (openings : fleet.openings ⊆ after.openings)
    (members : after.members = fleet.members) (states : after.store.states = fleet.store.states)
    (adoptions : after.adoptions = fleet.adoptions) : after.Sound where
  members := by
    rw [members]
    exact fun member among =>
      (sound.members member among).mono (fun _ _ genuine => genuine.mono passed openings) passed
  stored := by
    rw [states]
    intro entry among opened
    obtain ⟨wall, openedAt, genuine⟩ := sound.stored entry among opened
    exact ⟨wall, openedAt, genuine.mono passed openings⟩
  adopted := by
    rw [adoptions]
    exact fun adoption among => (sound.adopted adoption among).mono passed openings
  remembered := by
    rw [adoptions, members]
    exact sound.remembered
  once := by
    rw [adoptions]
    exact sound.once

/-- A sound member whose breakers have not turned back may take the place of another one. -/
theorem Sound.update {other : Member} (sound : fleet.Sound)
    (found : fleet.members[index]? = some member)
    (fits : other.Sound fleet.Genuine fleet.moment.wall)
    (later : ∀ provider change, (member.bank.mark provider).lastChange = some change →
      ∃ later, (other.bank.mark provider).lastChange = some later ∧ change ≤ later) :
    (fleet.update index other).Sound where
  members := by
    intro each among
    rcases List.mem_or_eq_of_mem_set among with earlier | rfl
    · exact sound.members each earlier
    · exact fits
  stored := sound.stored
  adopted := sound.adopted
  remembered := by
    intro adoption among
    obtain ⟨holder, there, change, changed, notBefore⟩ := sound.remembered adoption among
    by_cases here : index = adoption.index
    · subst here
      obtain rfl : member = holder := Option.some.inj (found.symm.trans there)
      obtain ⟨next, next_eq, further⟩ := later adoption.provider change changed
      have bound := (List.getElem?_eq_some_iff.1 found).1
      exact ⟨other, List.getElem?_set_self bound, next, next_eq, notBefore.trans further⟩
    · refine ⟨holder, ?_, change, changed, notBefore⟩
      exact (List.getElem?_set_ne here).trans there
  once := sound.once

/-! ## What a step keeps -/

theorem Sound.operate {operation : BankOperation} (sound : fleet.Sound)
    (found : fleet.members[index]? = some member) (isLocal : operation.IsLocal) :
    (fleet.operate index operation member).Sound := by
  let outcome := member.bank.apply operation fleet.moment
  let logged : Fleet :=
    { fleet with openings := (fleet.operate index operation member).openings }
  have sound : logged.Sound :=
    sound.mono (le_rfl) (List.subset_append_left _ _) rfl rfl rfl
  have fits : member.Sound logged.Genuine fleet.moment.wall :=
    sound.members member (List.mem_of_getElem? found)
  have turns : member.bank.Turns (fun provider target wall => wall = fleet.moment.wall ∧
      (target = .opened → logged.Genuine provider wall)) outcome.bank outcome.events := by
    refine (member.bank.turns_of_isLocal fleet.moment isLocal).imp ?_
    rintro provider origin target wall told ⟨now, failed⟩
    refine ⟨now, ?_⟩
    rintro rfl
    obtain rfl := failed rfl
    refine ⟨now.le, ⟨index, provider, wall⟩, List.mem_append_right _ ?_, rfl, rfl⟩
    change _ ∈ sightings index outcome.events
    rw [told]
    exact List.mem_singleton_self _
  refine sound.update found (fits.report turns ?_ ?_) fun provider change => turns.exists_later ?_
  · exact fun _ _ _ allowed => allowed.1.le
  · exact fun _ _ allowed => allowed.2 rfl
  · rintro name target wall ⟨rfl, -⟩ change changed
    exact fits.past name change changed

theorem Sound.publish (sound : fleet.Sound) (found : fleet.members[index]? = some member) :
    (fleet.publish index member).Sound := by
  unfold Fleet.publish
  split
  · exact sound
  · rename_i event rest queue
    have fits := sound.members member (List.mem_of_getElem? found)
    have head : event ∈ member.queue := by simp [queue]
    have tail : rest ⊆ member.queue := by simp [queue]
    have shorter : ({ member with queue := rest } : Member).Sound fleet.Genuine
        fleet.moment.wall :=
      ⟨fun event among => fits.queued event (tail among), fits.fetched, fits.opened, fits.past⟩
    have updated := sound.update found shorter fun _ change changed =>
      ⟨change, changed, le_rfl⟩
    refine ⟨updated.members, ?_, updated.adopted, updated.remembered, updated.once⟩
    intro entry among
    unfold publishEvent at among
    split at among
    · rename_i transition changed
      rcases MemoryStore.mem_publish among with rfl | earlier
      · exact Mirror.isTrue_stateOf member.id (fits.queued event head transition changed)
      · exact sound.stored entry earlier
    · exact sound.stored entry among

theorem Sound.fetch (sound : fleet.Sound) (found : fleet.members[index]? = some member) :
    (fleet.fetch index member).Sound := by
  unfold Fleet.fetch MemoryStore.fetchAll
  split
  · rename_i states fetched
    split at fetched
    · obtain rfl := Except.ok.inj fetched
      have fits := sound.members member (List.mem_of_getElem? found)
      refine sound.update found ⟨fits.queued, fun entry among => ?_, fits.opened, fits.past⟩
        fun _ change changed => ⟨change, changed, le_rfl⟩
      rcases List.mem_append.1 among with earlier | new
      · exact fits.fetched entry earlier
      · exact sound.stored entry new
    · exact absurd fetched nofun
  · exact sound

theorem sightings_of_silent {events : List Event}
    (silent : ∀ event ∈ events, event.notice = .rejected) : sightings index events = [] := by
  refine List.filterMap_eq_nil_iff.2 fun event among => ?_
  rw [silent event among]

/-- Adopting true openings that are later than all changes keeps a fleet sound. -/
theorem Sound.absorb {outcome : Mirror.PullOutcome} (sound : fleet.Sound)
    (found : fleet.members[index]? = some member)
    (turns : member.bank.Turns (fun name target wall => target = .opened ∧
        fleet.Genuine name wall ∧
          ∀ change, (member.bank.mark name).lastChange = some change → change < wall)
      outcome.bank outcome.events) :
    (fleet.absorb index outcome member).Sound := by
  have fits := sound.members member (List.mem_of_getElem? found)
  have updated : (fleet.update index (member.report outcome.bank outcome.events)).Sound := by
    refine sound.update found (fits.report turns ?_ ?_) fun _ _ => turns.exists_later ?_
    · exact fun _ _ _ allowed => allowed.2.1.1
    · exact fun _ _ allowed => allowed.2.1
    · exact fun _ _ _ allowed change changed => (allowed.2.2 change changed).le
  cases turns with
  | still marks silent =>
      refine updated.mono (le_rfl) (List.Subset.refl _) rfl rfl ?_
      exact (congrArg (fleet.adoptions ++ ·) (sightings_of_silent silent)).trans
        (List.append_nil _)
  | turned provider origin target wall allowed marks told =>
      obtain ⟨rfl, genuine, later⟩ := allowed
      have adoptions : (fleet.absorb index outcome member).adoptions =
          fleet.adoptions ++ [⟨index, provider, wall⟩] := by
        rw [Fleet.absorb, told]
        rfl
      have bound := (List.getElem?_eq_some_iff.1 found).1
      refine ⟨updated.members, updated.stored, ?_, ?_, ?_⟩
      · rw [adoptions]
        intro adoption among
        rcases List.mem_append.1 among with earlier | new
        · exact sound.adopted adoption earlier
        · obtain rfl := List.mem_singleton.1 new
          exact genuine
      · rw [adoptions]
        intro adoption among
        rcases List.mem_append.1 among with earlier | new
        · exact updated.remembered adoption earlier
        · obtain rfl := List.mem_singleton.1 new
          refine ⟨_, List.getElem?_set_self bound, wall, ?_, le_rfl⟩
          change (outcome.bank.mark provider).lastChange = some wall
          rw [marks, if_pos rfl]
          rfl
      · rw [adoptions]
        refine List.nodup_append.2 ⟨sound.once, List.pairwise_singleton _ _, ?_⟩
        rintro adoption again other new rfl
        obtain rfl := List.mem_singleton.1 new
        -- Had the member adopted it before, its breaker would have changed then or later.
        obtain ⟨holder, there, change, changed, notBefore⟩ := sound.remembered _ again
        obtain rfl : member = holder := Option.some.inj (found.symm.trans there)
        exact not_lt_of_ge notBefore (later change changed)

theorem Sound.adopt {entry : String × SharedState} (sound : fleet.Sound)
    (found : fleet.members[index]? = some member)
    (truthful : entry.2.IsTrue (fleet.Genuine entry.1)) :
    (fleet.adopt index entry member).Sound :=
  sound.absorb found (Mirror.turns_adoptState truthful member.id fleet.moment member.bank)

/-- Going on with a pull is adopting from one more state. -/
theorem adopt_absorb (fleet : Fleet) (index : Nat) (member : Member)
    (outcome : Mirror.PullOutcome) (entry : String × SharedState) :
    (fleet.absorb index outcome member).adopt index entry
        (member.report outcome.bank outcome.events) =
      fleet.absorb index
        (Mirror.adoptState member.id fleet.moment outcome entry.1 entry.2) member := by
  simp only [Fleet.adopt, Fleet.absorb, Fleet.update, Member.report, Mirror.adoptState]
  cases Mirror.opening? member.id entry.2 with
  | none => simp [sightings]
  | some opened => simp [sightings]

/-- Pulling keeps a fleet sound: it is adopting from one state after the other. -/
theorem Sound.pull (sound : fleet.Sound) (found : fleet.members[index]? = some member) :
    (fleet.pull index member).Sound := by
  have start : (fleet.absorb index ⟨member.bank, 0, []⟩ member).Sound :=
    sound.absorb found (.still (fun _ => rfl) nofun)
  have bound := (List.getElem?_eq_some_iff.1 found).1
  unfold Fleet.pull Mirror.pull MemoryStore.fetchAll
  split
  · exact start
  · rename_i states fetched
    split at fetched
    · obtain rfl := Except.ok.inj fetched
      refine List.foldlRecOn _ _ (motive := fun outcome =>
        (fleet.absorb index outcome member).Sound) start fun outcome sound entry among => ?_
      rw [← adopt_absorb]
      exact sound.adopt (List.getElem?_set_self bound) (sound.stored entry among)
    · exact absurd fetched nofun

theorem length_sightings_adopt (index : Nat) (provider : String) (openedWall : Timestamp)
    (moment : Moment) (bank : Bank) :
    (sightings index (bank.adopt provider openedWall moment).events).length =
      (bank.adopt provider openedWall moment).granted.toNat := by
  unfold Bank.adopt
  rcases Breaker.adopt_cases openedWall moment (bank.getOrFresh provider) with
    refused | ⟨-, adopted⟩
  · rw [refused]
    rfl
  · rw [adopted]
    rfl

/-- As many adoptions are recorded as pulling counts. -/
theorem length_adoptions_pull (fleet : Fleet) (index : Nat) (member : Member) :
    (fleet.pull index member).adoptions.length = fleet.adoptions.length +
      (Mirror.pull member.id fleet.moment fleet.store.fetchAll member.bank).adopted := by
  have counted : (sightings index (Mirror.pull member.id fleet.moment fleet.store.fetchAll
      member.bank).events).length =
        (Mirror.pull member.id fleet.moment fleet.store.fetchAll member.bank).adopted := by
    unfold Mirror.pull
    split
    · rfl
    · refine List.foldlRecOn _ _ (motive := fun outcome : Mirror.PullOutcome =>
        (sightings index outcome.events).length = outcome.adopted) rfl ?_
      intro outcome counted entry _
      unfold Mirror.adoptState
      split
      · exact counted
      · rw [sightings, List.filterMap_append, List.length_append]
        exact congrArg₂ (· + ·) counted (length_sightings_adopt index _ _ _ _)
  unfold Fleet.pull Fleet.absorb
  rw [List.length_append, counted]

/-! ## What a run keeps -/

theorem Sound.next (sound : fleet.Sound) (step : FleetStep) : (fleet.next step).Sound := by
  cases step with
  | pass instant wall =>
      exact sound.mono (fleet.moment.wall.le_after wall) (List.Subset.refl _) rfl rfl rfl
  | operate index operation isLocal =>
      exact sound.onMember fun member found => sound.operate found isLocal
  | publish index => exact sound.onMember fun member found => sound.publish found
  | setAvailable available =>
      exact sound.mono (le_rfl) (List.Subset.refl _) rfl rfl rfl
  | fetch index => exact sound.onMember fun member found => sound.fetch found
  | adopt index position =>
      refine sound.onMember fun member found => ?_
      split
      · rename_i entry there
        have fits := sound.members member (List.mem_of_getElem? found)
        exact sound.adopt found (fits.fetched entry (List.mem_of_getElem? there))
      · exact sound
  | pull index => exact sound.onMember fun member found => sound.pull found

theorem sound_run (moment : Moment) (members : List (InstanceId × Thresholds))
    (steps : List FleetStep) : (run moment members steps).Sound := by
  induction steps using List.reverseRecOn with
  | nil => exact sound_start moment members
  | append_singleton steps step ih =>
      rw [run, List.foldl_append]
      exact Sound.next ih step

/-- However members operate, publish and pull, and whenever the store is out of reach: the state of
an open breaker in the store, every opening that a member adopts, and every open breaker of a member
carry the time of an opening of that provider which a failed call caused in one of the members, not
later than now; and no member adopts an opening of a provider with the same time twice.  What a
member counts when it pulls is how many openings it adopts. -/
theorem mirroring_law (moment : Moment) (members : List (InstanceId × Thresholds))
    (steps : List FleetStep) :
    let fleet := run moment members steps
    (∀ entry ∈ fleet.store.states.entries, entry.2.phase = .opened →
      ∃ wall, entry.2.openedAt = some wall ∧ fleet.Genuine entry.1 wall) ∧
    (∀ adoption ∈ fleet.adoptions, fleet.Genuine adoption.provider adoption.wall) ∧
    (∀ member ∈ fleet.members, ∀ provider breaker, member.bank.get? provider = some breaker →
      breaker.phase = .opened →
        ∃ wall, breaker.openedWall = some wall ∧ fleet.Genuine provider wall) ∧
    fleet.adoptions.Nodup ∧
    ∀ index member, fleet.members[index]? = some member →
      (fleet.next (.pull index)).adoptions.length = fleet.adoptions.length +
        (Mirror.pull member.id fleet.moment fleet.store.fetchAll member.bank).adopted := by
  intro fleet
  have sound : fleet.Sound := sound_run moment members steps
  refine ⟨sound.stored, sound.adopted, fun member among provider breaker held isOpen => ?_,
    sound.once, fun index member found => ?_⟩
  · have mark : member.bank.mark provider = breaker.mark := by
      rw [Bank.mark, Bank.getOrFresh, held, Option.getD_some]
    have opened := (sound.members member among).opened provider
    rw [mark] at opened
    exact opened isOpen
  · rw [next, onMember_of_some found, length_adoptions_pull]

/-- A failed call opens a breaker of the first member; the second one adopts the opening and
publishes it in turn, and the first one does not take it for news. -/
example :
    let thresholds := { Thresholds.standard with failures := 1 }
    let fleet := run Clock.start.moment [(⟨1⟩, thresholds), (⟨2⟩, thresholds)]
      [.operate 0 (.record "p" false) trivial, .pass 5 5, .publish 0, .pull 1, .publish 1, .pull 0]
    let wall := Clock.start.moment.wall
    fleet.openings = [⟨0, "p", wall⟩] ∧ fleet.adoptions = [⟨1, "p", wall⟩] := by
  decide

end Fleet

end ProviderRouting
