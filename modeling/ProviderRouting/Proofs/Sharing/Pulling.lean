import ProviderRouting.Proofs.Breaker.Turning
import ProviderRouting.Proofs.Breaker.Dispatch
import ProviderRouting.Proofs.Tables
import ProviderRouting.Sharing.Mirror

/-!
# What a pull does

A pull walks over what was fetched and lets the breaker of each provider adopt the opening that is
published for it.  As a provider is published at most once, what becomes of its breaker depends on
its own entry alone, and the order of the walk does not matter.
-/

namespace ProviderRouting

namespace Mirror

variable {own : InstanceId} {moment : Moment} {bank : Bank} {states : Table SharedState}
  {walk : List (String × SharedState)} {name : String} {opened : Timestamp}

/-! ## One breaker after the other -/

/-- Adopt the openings in some states, one after the other. -/
def adoptEach (own : InstanceId) (moment : Moment) (walk : List (String × SharedState))
    (outcome : PullOutcome) : PullOutcome :=
  walk.foldl (fun outcome entry => adoptState own moment outcome entry.1 entry.2) outcome

/-- What a breaker, or the lack of one, becomes when a state is published for its provider. -/
def becomes (own : InstanceId) (moment : Moment) (bank : Bank) (name : String)
    (published : Option SharedState) : Option Breaker :=
  match published.bind (opening? own) with
  | none => bank.get? name
  | some opened => some ((bank.getOrFresh name).adopt opened moment).breaker

/-- Whether a breaker adopts the opening in a state. -/
def adopts (own : InstanceId) (moment : Moment) (bank : Bank) (entry : String × SharedState) :
    Bool :=
  (opening? own entry.2).any fun opened =>
    ((bank.getOrFresh entry.1).adopt opened moment).granted

theorem get?_adoptState (outcome : PullOutcome) (entry : String × SharedState) (name : String) :
    (adoptState own moment outcome entry.1 entry.2).bank.get? name =
      if entry.1 = name then becomes own moment outcome.bank name (some entry.2)
      else outcome.bank.get? name := by
  simp only [adoptState, becomes, Option.bind_some]
  cases opening? own entry.2 with
  | none => exact (ite_self _).symm
  | some opened =>
      simp only [Bank.adopt, Bank.settle, Bank.get?_put]
      split
      · rename_i same
        rw [same]
      · rfl

theorem policy_adoptState (own : InstanceId) (moment : Moment) (outcome : PullOutcome)
    (entry : String × SharedState) :
    (adoptState own moment outcome entry.1 entry.2).bank.defaults = outcome.bank.defaults ∧
      (adoptState own moment outcome entry.1 entry.2).bank.overrides =
        outcome.bank.overrides := by
  unfold adoptState
  split <;> exact ⟨rfl, rfl⟩

theorem adopted_adoptState (outcome : PullOutcome) (entry : String × SharedState) :
    (adoptState own moment outcome entry.1 entry.2).adopted =
      outcome.adopted + (adopts own moment outcome.bank entry).toNat := by
  simp only [adoptState, adopts]
  cases opening? own entry.2 with
  | none => rfl
  | some opened => rfl

theorem getOrFresh_adoptState (outcome : PullOutcome) (entry : String × SharedState)
    (elsewhere : entry.1 ≠ name) :
    (adoptState own moment outcome entry.1 entry.2).bank.getOrFresh name =
      outcome.bank.getOrFresh name := by
  obtain ⟨defaults, overrides⟩ := policy_adoptState own moment outcome entry
  rw [Bank.getOrFresh, get?_adoptState, if_neg elsewhere, Bank.thresholdsFor, defaults, overrides]
  rfl

theorem policy_adoptEach (own : InstanceId) (moment : Moment) (walk : List (String × SharedState))
    (outcome : PullOutcome) :
    (adoptEach own moment walk outcome).bank.defaults = outcome.bank.defaults ∧
      (adoptEach own moment walk outcome).bank.overrides = outcome.bank.overrides := by
  induction walk generalizing outcome with
  | nil => exact ⟨rfl, rfl⟩
  | cons entry rest ih =>
      obtain ⟨defaults, overrides⟩ := policy_adoptState own moment outcome entry
      exact ⟨(ih _).1.trans defaults, (ih _).2.trans overrides⟩

/-- What becomes of a breaker depends on the state that is published for its provider alone. -/
theorem get?_adoptEach (distinct : (walk.map Prod.fst).Nodup) (outcome : PullOutcome) :
    (adoptEach own moment walk outcome).bank.get? name =
      becomes own moment outcome.bank name (Table.find name walk) := by
  induction walk generalizing outcome with
  | nil => rfl
  | cons entry rest ih =>
      obtain ⟨absent, distinctRest⟩ := List.nodup_cons.mp distinct
      rw [adoptEach, List.foldl_cons, ← adoptEach, ih distinctRest, Table.find]
      split
      · rename_i here
        subst here
        rw [Table.find_eq_none_of_not_mem absent]
        exact (get?_adoptState outcome entry entry.1).trans (if_pos rfl)
      · rename_i elsewhere
        rw [becomes, becomes, get?_adoptState, if_neg elsewhere,
          getOrFresh_adoptState outcome entry elsewhere]

theorem adopted_adoptEach (distinct : (walk.map Prod.fst).Nodup) (outcome : PullOutcome) :
    (adoptEach own moment walk outcome).adopted =
      outcome.adopted + walk.countP (adopts own moment outcome.bank) := by
  induction walk generalizing outcome with
  | nil => rfl
  | cons entry rest ih =>
      obtain ⟨absent, distinctRest⟩ := List.nodup_cons.mp distinct
      have same : ∀ other ∈ rest,
          (adopts own moment (adoptState own moment outcome entry.1 entry.2).bank other = true ↔
            adopts own moment outcome.bank other = true) := by
        intro other member
        have elsewhere : entry.1 ≠ other.1 :=
          fun here => absent (here ▸ List.mem_map_of_mem member)
        rw [adopts, adopts, getOrFresh_adoptState outcome entry elsewhere]
      rw [adoptEach, List.foldl_cons, ← adoptEach, ih distinctRest, adopted_adoptState,
        List.countP_congr same, List.countP_cons, Nat.add_assoc, Nat.add_comm (Bool.toNat _)]
      cases adopts own moment outcome.bank entry <;> rfl

/-! ## What is to be adopted -/

/-- Another instance has published an opening that the provider's breaker is to adopt.  A provider
without a breaker has a closed one that has never changed. -/
structure Adopts (own : InstanceId) (moment : Moment) (bank : Bank) (states : Table SharedState)
    (name : String) (opened : Timestamp) : Prop where
  /-- The provider's entry is that of another instance's open breaker and says when it opened. -/
  published : ∃ state, states.get? name = some state ∧ state.phase = .opened ∧
    state.instanceId ≠ own ∧ state.openedAt = some opened
  /-- The provider's breaker is not open. -/
  outside : (bank.getOrFresh name).phase ≠ .opened
  /-- It has not changed since the opening. -/
  later : ∀ change, (bank.getOrFresh name).lastChange = some change → change < opened
  /-- The opening is younger than its timeout. -/
  young : opened.age moment.wall < (bank.getOrFresh name).thresholds.timeout

theorem opening?_eq_some_iff {state : SharedState} :
    opening? own state = some opened ↔
      state.phase = .opened ∧ state.instanceId ≠ own ∧ state.openedAt = some opened := by
  unfold opening?
  split
  · rename_i unfit
    refine iff_of_false nofun ?_
    rintro ⟨isOpen, foreign, -⟩
    exact unfit.elim foreign fun other => other isOpen
  · rename_i fit
    obtain ⟨foreign, isOpen⟩ := not_or.mp fit
    exact ⟨fun openedAt => ⟨not_not.mp isOpen, foreign, openedAt⟩, fun fits => fits.2.2⟩

theorem adopts_iff :
    Adopts own moment bank states name opened ↔
      (states.get? name).bind (opening? own) = some opened ∧
        ((bank.getOrFresh name).adopt opened moment).granted = true := by
  rw [Breaker.adopt_granted_iff, Option.bind_eq_some_iff]
  simp only [opening?_eq_some_iff]
  constructor
  · rintro ⟨published, outside, later, young⟩
    exact ⟨published, outside, young, later⟩
  · rintro ⟨published, outside, young, later⟩
    exact ⟨published, outside, later, young⟩

theorem adopts_eq_true_iff {entry : String × SharedState} (member : entry ∈ states.entries) :
    adopts own moment bank entry = true ↔
      ∃ opened, Adopts own moment bank states entry.1 opened := by
  simp only [adopts_iff, Table.mem_entries_iff.mp member, Option.bind_some]
  exact Option.any_eq_true _ _

/-- The entries whose openings are adopted are those of the breakers that adopt one. -/
theorem mem_adopting_iff (reordered : walk.Perm states.entries) :
    name ∈ (walk.filter (adopts own moment bank)).map Prod.fst ↔
      ∃ opened, Adopts own moment bank states name opened := by
  rw [List.mem_map]
  constructor
  · rintro ⟨entry, member, rfl⟩
    obtain ⟨listed, adopted⟩ := List.mem_filter.mp member
    exact (adopts_eq_true_iff (reordered.mem_iff.mp listed)).mp adopted
  · rintro ⟨opened, adopted⟩
    obtain ⟨state, published, -⟩ := adopted.published
    have listed : (name, state) ∈ states.entries := Table.mem_entries_iff.mpr published
    refine ⟨(name, state), List.mem_filter.mpr ⟨reordered.mem_iff.mpr listed, ?_⟩, rfl⟩
    exact (adopts_eq_true_iff listed).mpr ⟨opened, adopted⟩

/-! ## What becomes of the breakers -/

theorem becomes_of_adopts (adopted : Adopts own moment bank states name opened) :
    becomes own moment bank name (states.get? name) =
      some ((bank.getOrFresh name).enter .opened
        ⟨moment.instant - opened.age moment.wall, opened⟩) := by
  obtain ⟨opening, granted⟩ := adopts_iff.mp adopted
  simp only [becomes, opening, Breaker.adopt_of_granted granted]

/-- A breaker that is not to adopt an opening stays, and may be made if there is none. -/
theorem becomes_of_not_adopts (refused : ¬∃ opened, Adopts own moment bank states name opened) :
    becomes own moment bank name (states.get? name) = bank.get? name ∨
      becomes own moment bank name (states.get? name) = some (bank.getOrFresh name) := by
  unfold becomes
  cases opening : (states.get? name).bind (opening? own) with
  | none => exact .inl rfl
  | some opened =>
      refine .inr (congrArg some ?_)
      rcases Breaker.adopt_cases opened moment (bank.getOrFresh name) with same | ⟨-, opens⟩
      · rw [same]
      · exact absurd ⟨opened, adopts_iff.mpr ⟨opening, by rw [opens]; rfl⟩⟩ refused

/-- Every breaker has become what the state that is published for its provider makes of it. -/
structure Follows (own : InstanceId) (moment : Moment) (bank : Bank) (states : Table SharedState)
    (after : Bank) : Prop where
  lookups : ∀ name, after.get? name = becomes own moment bank name (states.get? name)
  defaults : after.defaults = bank.defaults
  overrides : after.overrides = bank.overrides

namespace Follows

variable {after other : Bank}

theorem unique (follows : Follows own moment bank states after)
    (others : Follows own moment bank states other) : after = other :=
  Bank.ext_get? (fun name => (follows.lookups name).trans (others.lookups name).symm)
    (follows.defaults.trans others.defaults.symm) (follows.overrides.trans others.overrides.symm)

theorem get?_of_adopts (follows : Follows own moment bank states after)
    (adopted : Adopts own moment bank states name opened) :
    after.get? name = some ((bank.getOrFresh name).enter .opened
      ⟨moment.instant - opened.age moment.wall, opened⟩) :=
  (follows.lookups name).trans (becomes_of_adopts adopted)

theorem phase_of_adopts (follows : Follows own moment bank states after)
    (adopted : Adopts own moment bank states name opened) : after.phase name = .opened := by
  rw [← Bank.phase_getOrFresh, Bank.getOrFresh_of_some (follows.get?_of_adopts adopted)]
  rfl

theorem get?_of_not_adopts (follows : Follows own moment bank states after)
    (refused : ¬∃ opened, Adopts own moment bank states name opened) :
    after.get? name = bank.get? name ∨ after.get? name = some (bank.getOrFresh name) := by
  rw [follows.lookups]
  exact becomes_of_not_adopts refused

theorem getOrFresh_of_not_adopts (follows : Follows own moment bank states after)
    (refused : ¬∃ opened, Adopts own moment bank states name opened) :
    after.getOrFresh name = bank.getOrFresh name := by
  rcases follows.get?_of_not_adopts refused with untouched | made
  · rw [Bank.getOrFresh, untouched, Bank.thresholdsFor, follows.defaults, follows.overrides]
    rfl
  · exact Bank.getOrFresh_of_some made

theorem phase_of_not_adopts (follows : Follows own moment bank states after)
    (refused : ¬∃ opened, Adopts own moment bank states name opened) :
    after.phase name = bank.phase name := by
  rw [← Bank.phase_getOrFresh, follows.getOrFresh_of_not_adopts refused, Bank.phase_getOrFresh]

end Follows

theorem nodup_of_reordered (reordered : walk.Perm states.entries) :
    (walk.map Prod.fst).Nodup :=
  (reordered.map Prod.fst).nodup_iff.mpr states.nodup_names

theorem follows_adoptEach (reordered : walk.Perm states.entries) :
    Follows own moment bank states (adoptEach own moment walk ⟨bank, 0, []⟩).bank := by
  have distinct := nodup_of_reordered reordered
  obtain ⟨defaults, overrides⟩ := policy_adoptEach own moment walk ⟨bank, 0, []⟩
  refine ⟨fun name => ?_, defaults, overrides⟩
  rw [get?_adoptEach distinct, Table.find_perm reordered distinct]
  rfl

/-! ## The law of pulls -/

/-- What a pull leaves of a bank. -/
structure Pulled (own : InstanceId) (moment : Moment) (bank : Bank) (states : Table SharedState)
    (after : PullOutcome) : Prop where
  /-- The breakers that it opens are those that are to adopt an opening. -/
  opens : ∀ name, bank.phase name ≠ .opened ∧ after.bank.phase name = .opened ↔
    ∃ opened, Adopts own moment bank states name opened
  /-- Such a breaker keeps its thresholds, its window and all that it has counted. -/
  adopts : ∀ name opened, Adopts own moment bank states name opened →
    ∃ breaker, after.bank.get? name = some breaker ∧
      breaker.thresholds = (bank.getOrFresh name).thresholds ∧
      breaker.window = (bank.getOrFresh name).window ∧
      ∀ later, (breaker.snapshot name later).2 =
        { ((bank.getOrFresh name).snapshot name later).2 with
          phase := .opened
          successCount := 0
          openedAt := some opened
          secondsUntilRetry := breaker.secondsUntilRetry later.instant
          timesOpened := (bank.getOrFresh name).timesOpened + 1 }
  /-- Every other breaker is as it was.  A provider may get a fresh one. -/
  keeps : ∀ name, (¬∃ opened, Adopts own moment bank states name opened) →
    after.bank.getOrFresh name = bank.getOrFresh name ∧
      ∀ breaker, bank.get? name = some breaker → after.bank.get? name = some breaker
  /-- No breaker closes or becomes half-open. -/
  stays : ∀ name, after.bank.phase name = bank.phase name ∨ after.bank.phase name = .opened
  /-- The thresholds in force stay. -/
  policy : after.bank.defaults = bank.defaults ∧ after.bank.overrides = bank.overrides
  /-- It returns how many breakers have adopted an opening. -/
  counts : ∃ names : List String, names.Nodup ∧
    (∀ name, name ∈ names ↔ ∃ opened, Adopts own moment bank states name opened) ∧
    after.adopted = names.length

theorem pulled_of_follows {after : PullOutcome} (follows : Follows own moment bank states after.bank)
    (counts : ∃ names : List String, names.Nodup ∧
      (∀ name, name ∈ names ↔ ∃ opened, Adopts own moment bank states name opened) ∧
      after.adopted = names.length) :
    Pulled own moment bank states after := by
  refine ⟨fun name => ⟨?_, ?_⟩, fun name opened adopted => ?_, fun name refused => ?_,
    fun name => ?_, ⟨follows.defaults, follows.overrides⟩, counts⟩
  · rintro ⟨before, now⟩
    by_contra refused
    exact before ((follows.phase_of_not_adopts refused).symm.trans now)
  · rintro ⟨opened, adopted⟩
    refine ⟨?_, follows.phase_of_adopts adopted⟩
    rw [← Bank.phase_getOrFresh]
    exact adopted.outside
  · exact ⟨_, follows.get?_of_adopts adopted, rfl, rfl, fun later => rfl⟩
  · refine ⟨follows.getOrFresh_of_not_adopts refused, fun breaker held => ?_⟩
    rcases follows.get?_of_not_adopts refused with untouched | made
    · exact untouched.trans held
    · rw [made, Bank.getOrFresh_of_some held]
  · by_cases adopts : ∃ opened, Adopts own moment bank states name opened
    · obtain ⟨opened, adopted⟩ := adopts
      exact .inr (follows.phase_of_adopts adopted)
    · exact .inl (follows.phase_of_not_adopts adopts)

theorem pulled_adoptEach (reordered : walk.Perm states.entries) :
    Pulled own moment bank states (adoptEach own moment walk ⟨bank, 0, []⟩) := by
  have distinct := nodup_of_reordered reordered
  refine pulled_of_follows (follows_adoptEach reordered)
    ⟨(walk.filter (adopts own moment bank)).map Prod.fst, ?_,
      fun name => mem_adopting_iff reordered, ?_⟩
  · exact (List.filter_sublist.map Prod.fst).nodup distinct
  · rw [adopted_adoptEach distinct, Nat.zero_add, List.countP_eq_length_filter, List.length_map]

/-- Whatever is published and whatever the breakers are, a pull opens the breakers that are to adopt
an opening, in whichever order it walks over the states, and leaves everything else as it was.  If
the states cannot be fetched nothing happens. -/
theorem pull_law (own : InstanceId) (moment : Moment) (bank : Bank) :
    (∀ (states : Table SharedState) (walk : List (String × SharedState)),
      walk.Perm states.entries →
        let after := adoptEach own moment walk ⟨bank, 0, []⟩
        let pulled := pull own moment (.ok states) bank
        Pulled own moment bank states after ∧
          after.bank = pulled.bank ∧ after.adopted = pulled.adopted) ∧
    ∀ fault, pull own moment (.error fault) bank = ⟨bank, 0, []⟩ := by
  refine ⟨fun states walk reordered => ⟨pulled_adoptEach reordered, ?_, ?_⟩, fun fault => rfl⟩
  · exact (follows_adoptEach reordered).unique (follows_adoptEach (.refl states.entries))
  · change (adoptEach own moment walk ⟨bank, 0, []⟩).adopted =
      (adoptEach own moment states.entries ⟨bank, 0, []⟩).adopted
    rw [adopted_adoptEach (nodup_of_reordered reordered),
      adopted_adoptEach (nodup_of_reordered (.refl states.entries)), reordered.countP_eq]

/-- An instance adopts the opening of another one and leaves its own alone. -/
example :
    let wall (second : Nat) : Timestamp := .ofNanoseconds (Duration.ofSeconds second)
    let opening (instanceId : InstanceId) : SharedState :=
      ⟨.opened, some (wall 90), wall 90, instanceId⟩
    let states : Table SharedState := .ofList [("p", opening ⟨1⟩), ("q", opening ⟨2⟩)]
    let after := pull ⟨1⟩ ⟨Duration.ofSeconds 5, wall 100⟩ (.ok states) (.ofDefaults .standard)
    after.bank.phase "p" = .closed ∧ after.bank.phase "q" = .opened ∧ after.adopted = 1 := by
  decide

/-- An opening at the start of the leap second before the third hour is over sixty seconds old half
a second before a minute of that hour has passed, and is not adopted. -/
example :
    let leap : Timestamp := ⟨2 * 3600 + 59 * 60 + 59, 1000000000⟩
    let states : Table SharedState := .ofList [("p", ⟨.opened, some leap, leap, ⟨2⟩⟩)]
    let moment : Moment := ⟨0, ⟨3 * 3600 + 59, 500000000⟩⟩
    let after := pull ⟨1⟩ moment (.ok states) (.ofDefaults .standard)
    leap.age moment.wall = 60500000000 ∧ after.adopted = 0 := by
  decide

end Mirror

end ProviderRouting
