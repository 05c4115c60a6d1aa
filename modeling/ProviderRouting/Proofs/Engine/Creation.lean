import ProviderRouting.Proofs.Engine.Observation
import ProviderRouting.Proofs.Sharing.Pulling

/-!
# Where breakers come from

A provider gets a breaker when the outcome of a call to it is recorded, when it is reset, and when
an opening that another instance saw is offered to it, whether or not it is adopted.  So an opening
that is refused leaves a fresh breaker behind if there was none, and nothing else.
-/

namespace ProviderRouting

/-- A breaker that refuses an opening stays as it is. -/
theorem Breaker.adopt_of_refused {breaker : Breaker} {opened : Timestamp} {moment : Moment}
    (refused : (breaker.adopt opened moment).granted = false) :
    (breaker.adopt opened moment).breaker = breaker := by
  rcases breaker.adopt_cases opened moment with same | ⟨-, opens⟩
  · rw [same]
  · rw [opens] at refused
    exact absurd refused.symm Bool.false_ne_true

theorem BankOperation.creates_eq_true_iff {operation : BankOperation} {name : String} :
    operation.creates name = true ↔
      (∃ succeeded, operation = .record name succeeded ∨ operation = .bypass name succeeded) ∨
        (∃ opened, operation = .adopt name opened) ∨ operation = .reset name := by
  cases operation <;> simp [creates]

/-! ## Listings -/

namespace Engine

variable {engine after : Engine} {name : String}

/-- Adopt what other instances have published, and count and keep what is reported about it. -/
def pull (own : InstanceId) (fetched : Except StoreFault (Table SharedState)) (engine : Engine) :
    Engine :=
  let pulled := Mirror.pull own engine.clock.moment fetched engine.bank
  { engine with bank := pulled.bank }.report pulled.events

/-- What a listing of all breakers shows. -/
def listing (engine : Engine) : Table BreakerSnapshot := engine.breakerStates.2

theorem get?_listing (engine : Engine) (name : String) :
    engine.listing.get? name =
      (engine.bank.get? name).map fun breaker => (breaker.snapshot name engine.clock.moment).2 :=
  Table.get?_map _ _ _

theorem isSome_pull (own : InstanceId) (states : Table SharedState) (engine : Engine)
    (name : String) :
    ((engine.pull own (.ok states)).bank.get? name).isSome = true ↔
      (engine.bank.get? name).isSome = true ∨
        ∃ opened, (states.get? name).bind (Mirror.opening? own) = some opened := by
  have follows : Mirror.Follows own engine.clock.moment engine.bank states
      (engine.pull own (.ok states)).bank := Mirror.follows_adoptEach (.refl states.entries)
  rw [follows.lookups, Mirror.becomes]
  cases (states.get? name).bind (Mirror.opening? own) <;> simp

theorem breakerState_isOk_iff :
    (∃ snapshot, (engine.breakerState name).2 = .ok snapshot) ↔
      (engine.bank.get? name).isSome = true := by
  rw [breakerState, Bank.snapshot]
  cases engine.bank.get? name with
  | none => simp
  | some breaker => simp

/-- A listing grew by fresh breakers of some providers that had none, and did not change
otherwise. -/
structure Adds (offered : String → Prop) (engine after : Engine) : Prop where
  /-- What was shown of a provider is still shown. -/
  kept : ∀ name snapshot, engine.listing.get? name = some snapshot →
    after.listing.get? name = some snapshot
  /-- Of other providers nothing is shown, or a fresh breaker. -/
  made : ∀ name, engine.listing.get? name = none →
    (offered name → after.listing.get? name = some
      ((Breaker.fresh (engine.bank.thresholdsFor name)).snapshot name engine.clock.moment).2) ∧
    (¬offered name → after.listing.get? name = none)
  /-- So nothing changes just if all of those had a breaker. -/
  same_iff : after.listing = engine.listing ↔
    ∀ name, offered name → (engine.bank.get? name).isSome = true

theorem adds_of_lookups {offered : String → Prop} (clock : after.clock = engine.clock)
    (given : ∀ name, offered name → after.bank.get? name = some (engine.bank.getOrFresh name))
    (kept : ∀ name, ¬offered name → after.bank.get? name = engine.bank.get? name) :
    engine.Adds offered after := by
  have held (name : String) (breaker : Breaker) (known : engine.bank.get? name = some breaker) :
      after.bank.get? name = some breaker := by
    by_cases asked : offered name
    · rw [given name asked, Bank.getOrFresh_of_some known]
    · rw [kept name asked, known]
  have shown (name : String) : after.listing.get? name = (after.bank.get? name).map
      fun breaker => (breaker.snapshot name engine.clock.moment).2 := by
    rw [get?_listing, clock]
  constructor
  · intro name snapshot listed
    rw [get?_listing] at listed
    obtain ⟨breaker, known, rfl⟩ := Option.map_eq_some_iff.mp listed
    rw [shown, held name breaker known, Option.map_some]
  · intro name unlisted
    rw [get?_listing, Option.map_eq_none_iff] at unlisted
    constructor
    · intro asked
      rw [shown, given name asked, Bank.getOrFresh_of_none unlisted, Option.map_some]
    · intro unasked
      rw [shown, kept name unasked, unlisted, Option.map_none]
  · constructor
    · intro same name asked
      have listed := shown name
      rw [same, given name asked, get?_listing] at listed
      obtain ⟨breaker, known, -⟩ := Option.map_eq_some_iff.mp listed
      exact Option.isSome_of_eq_some known
    · intro known
      refine Table.ext_get? fun name => ?_
      rw [shown, get?_listing]
      by_cases asked : offered name
      · obtain ⟨breaker, there⟩ := Option.isSome_iff_exists.mp (known name asked)
        rw [held name breaker there, there]
      · rw [kept name asked]

/-- A refused opening leaves a fresh breaker if there was none, and nothing else. -/
theorem adds_of_refused {opened : Timestamp}
    (refused : (engine.onBank (.adopt name opened)).2 = false) :
    engine.Adds (· = name) (engine.onBank (.adopt name opened)).1 := by
  have same : ((engine.bank.getOrFresh name).adopt opened engine.clock.moment).breaker =
      engine.bank.getOrFresh name :=
    Breaker.adopt_of_refused refused
  have lookups (other : String) : (engine.onBank (.adopt name opened)).1.bank.get? other =
      if name = other then some (engine.bank.getOrFresh name) else engine.bank.get? other := by
    rw [← same]
    exact Bank.get?_put _ _ _ _
  refine adds_of_lookups rfl (fun other here => ?_) fun other elsewhere => ?_
  · rw [lookups, if_pos here.symm, here]
  · rw [lookups, if_neg (Ne.symm elsewhere)]

/-- A pull that adopts nothing leaves fresh breakers of the providers without one for which another
instance has published an opening, and nothing else. -/
theorem adds_of_idle_pull {own : InstanceId} {states : Table SharedState}
    (idle : (Mirror.pull own engine.clock.moment (.ok states) engine.bank).adopted = 0) :
    engine.Adds (fun name => ((states.get? name).bind (Mirror.opening? own)).isSome)
      (engine.pull own (.ok states)) := by
  have follows : Mirror.Follows own engine.clock.moment engine.bank states
      (engine.pull own (.ok states)).bank := Mirror.follows_adoptEach (.refl states.entries)
  have pulled : Mirror.Pulled own engine.clock.moment engine.bank states
      (Mirror.pull own engine.clock.moment (.ok states) engine.bank) :=
    Mirror.pulled_adoptEach (.refl states.entries)
  obtain ⟨names, -, listed, counted⟩ := pulled.counts
  have none_adopts (name : String) :
      ¬∃ opened, Mirror.Adopts own engine.clock.moment engine.bank states name opened := by
    obtain rfl := List.eq_nil_of_length_eq_zero (counted.symm.trans idle)
    exact fun adopts => List.not_mem_nil ((listed name).mpr adopts)
  refine adds_of_lookups rfl (fun name offered => ?_) fun name unoffered => ?_
  · obtain ⟨opened, opening⟩ := Option.isSome_iff_exists.mp offered
    have refused : ((engine.bank.getOrFresh name).adopt opened engine.clock.moment).granted =
        false := by
      refine Bool.eq_false_iff.mpr fun granted => none_adopts name ⟨opened, ?_⟩
      exact Mirror.adopts_iff.mpr ⟨opening, granted⟩
    refine (follows.lookups name).trans ?_
    rw [Mirror.becomes, opening]
    exact congrArg some (Breaker.adopt_of_refused refused)
  · refine (follows.lookups name).trans ?_
    rw [Mirror.becomes, Option.not_isSome_iff_eq_none.mp unoffered]

end Engine

/-! ## Steps -/

/-- A step in the use of an engine whose breakers are shared. -/
inductive SharingStep where
  /-- The engine is used. -/
  | alone (step : SessionStep)
  /-- What other instances have published is pulled. -/
  | pull (own : InstanceId) (fetched : Except StoreFault (Table SharedState))

namespace SharingStep

/-- Take a step. -/
def perform (world : World) : SharingStep → World
  | alone step => Session.after world step
  | pull own fetched => { world with engine := world.engine.pull own fetched }

/-- The operation on the breakers that a step is. -/
def operation? : SharingStep → Option BankOperation
  | alone (.operate operation) => some operation
  | alone (.world (.aside (.bank operation _))) => some operation
  | alone (.world _) => none
  | pull _ _ => none

/-- A step records the outcome of a call to a provider. -/
def Records (name : String) (world : World) (step : SharingStep) : Prop :=
  (∃ succeeded, step.operation? = some (.record name succeeded) ∨
    step.operation? = some (.bypass name succeeded)) ∨
  ∃ index ending run, step = alone (.world (.settle index ending)) ∧
    world.runs[index]? = some run ∧ run.isCalling name = true

/-- A step offers a provider an opening that another instance saw. -/
def Offers (name : String) (opened : Timestamp) (step : SharingStep) : Prop :=
  step.operation? = some (.adopt name opened) ∨
  ∃ own states, step = pull own (.ok states) ∧
    (states.get? name).bind (Mirror.opening? own) = some opened

/-- A step offers a provider an opening, which it adopts. -/
def Adopts (name : String) (world : World) (step : SharingStep) : Prop :=
  ∃ opened, step.Offers name opened ∧ (world.engine.onBank (.adopt name opened)).2 = true

/-- A step offers a provider an opening, which it refuses. -/
def Refuses (name : String) (world : World) (step : SharingStep) : Prop :=
  ∃ opened, step.Offers name opened ∧ (world.engine.onBank (.adopt name opened)).2 = false

/-- A step resets a provider. -/
def Resets (name : String) (step : SharingStep) : Prop :=
  step.operation? = some (.reset name)

/-- Some step is of a kind when it is taken. -/
def Happens (kind : World → SharingStep → Prop) (start : World) (steps : List SharingStep) :
    Prop :=
  ∃ earlier step later, steps = earlier ++ step :: later ∧ kind (earlier.foldl perform start) step

/-- What gives a provider a breaker. -/
def Creates (name : String) (world : World) (step : SharingStep) : Prop :=
  step.Records name world ∨ (∃ opened, step.Offers name opened) ∨ step.Resets name

theorem creates_of_operation {name : String} {world : World} {step : SharingStep}
    {operation : BankOperation} (here : step.operation? = some operation) :
    step.Creates name world ↔ operation.creates name = true := by
  have unsettled (index : Nat) (ending : CallEnd) :
      step ≠ alone (.world (.settle index ending)) := by
    rintro rfl
    exact absurd here.symm (Option.some_ne_none _)
  have unshared (own : InstanceId) (states : Table SharedState) : step ≠ pull own (.ok states) := by
    rintro rfl
    exact absurd here.symm (Option.some_ne_none _)
  simp only [Creates, Records, Offers, Resets, here, Option.some.injEq, unsettled, unshared,
    false_and, exists_false, or_false, BankOperation.creates_eq_true_iff]

theorem creates_of_none {name : String} {world : World} {step : SharingStep}
    (here : step.operation? = none) :
    step.Creates name world ↔
      (∃ index ending run, step = alone (.world (.settle index ending)) ∧
        world.runs[index]? = some run ∧ run.isCalling name = true) ∨
      ∃ opened own states, step = pull own (.ok states) ∧
        (states.get? name).bind (Mirror.opening? own) = some opened := by
  simp only [Creates, Records, Offers, Resets, here, reduceCtorEq, or_self, exists_false, false_or,
    or_false]

end SharingStep

/-! ## Runs -/

namespace Run

variable {engine : Engine} {run : Run}

/-- Asking a breaker for a call creates none. -/
theorem isSome_asked {provider : String} {asked : Engine} {granted : Bool}
    (answer : (run.enter engine).onBank (.allow provider) = (asked, granted)) (name : String) :
    (asked.bank.get? name).isSome = (engine.bank.get? name).isSome := by
  have kept := (run.enter engine).bank.isSome_apply (.allow provider)
    (run.enter engine).clock.moment name
  have same : asked = ((run.enter engine).onBank (.allow provider)).1 := by
    rw [answer]
  rw [same, ← bank_enter engine run]
  exact kept.trans (Bool.or_false _)

/-- Until a call ends, a run creates no breaker. -/
theorem isSome_advance (stopped : Bool) (engine : Engine) (run : Run) (name : String) :
    ((run.advance stopped engine).1.bank.get? name).isSome = (engine.bank.get? name).isSome := by
  refine advance_cases stopped engine run ?waiting ?told ?denied ?admitted ?resorted ?ended
  case waiting => exact fun _ => rfl
  case told =>
    intro attempt rest _
    rw [stop, finish, RunProgress.bank_close]
  case denied => exact fun attempt rest asked _ answer => isSome_asked answer name
  case admitted => exact fun attempt rest asked _ answer => isSome_asked answer name
  case resorted => exact fun _ _ _ _ _ => rfl
  case ended =>
    intro _ _
    rw [finish, RunProgress.bank_close]

theorem isSome_recordOutcome (provider : String) (succeeded : Bool) (latency : Duration)
    (lastResort : Bool) (engine : Engine) (name : String) :
    ((engine.recordOutcome provider succeeded latency lastResort).bank.get? name).isSome =
      ((engine.bank.get? name).isSome || decide (provider = name)) := by
  cases lastResort <;> exact Bank.isSome_apply _ _ _ _

/-- However a call ends, its provider has a breaker. -/
theorem isSome_settle (ending : CallEnd) (engine : Engine) (run : Run) (name : String) :
    ((run.settle ending engine).1.bank.get? name).isSome =
      ((engine.bank.get? name).isSome || run.isCalling name) := by
  cases here : run.place with
  | calling attempt lastResort started rest =>
      have recorded (succeeded : Bool) := isSome_recordOutcome attempt.provider succeeded
        (elapsedSince engine.clock.moment.instant started) lastResort engine name
      rw [isCalling_of_calling here, settle, here]
      cases ending with
      | succeeded _ | cancelled =>
          dsimp only
          rw [finish, RunProgress.bank_close, recorded]
      | failed _ | dropped => exact recorded false
  | examining _ | finished | dropped _ =>
      have idle : ∀ attempt lastResort started rest,
          run.place ≠ .calling attempt lastResort started rest := by
        rw [here]
        rintro _ _ _ _ ⟨⟩
      rw [settle_of_idle ending idle, isCalling, here, Bool.or_false]

end Run

/-! ## Histories -/

theorem Engine.isSome_onBank (operation : BankOperation) (engine : Engine) (name : String) :
    ((engine.onBank operation).1.bank.get? name).isSome = true ↔
      (engine.bank.get? name).isSome = true ∨ operation.creates name = true := by
  have given := engine.bank.isSome_apply operation engine.clock.moment name
  rw [← Bool.or_eq_true, ← given]
  rfl

namespace World

/-- Beginning a run creates no breaker. -/
theorem isSome_begin (request : PlanRequest) (limit : Nat) (world : World) (name : String) :
    ((world.next (.begin request limit)).engine.bank.get? name).isSome =
      (world.engine.bank.get? name).isSome := by
  have planned := world.engine.bank_plan request
  cases made : world.engine.plan request with
  | mk engine result =>
      rw [made] at planned
      cases result with
      | error fault => rw [next_begin_of_error made, planned]
      | ok plan =>
          rw [next_begin_of_ok made, ← planned]
          rfl

/-- A run creates breakers as its steps do. -/
theorem isSome_onRun {step : Engine → Run → Engine × Run} {creates : Run → Bool} {name : String}
    (given : ∀ engine run, ((step engine run).1.bank.get? name).isSome =
      ((engine.bank.get? name).isSome || creates run)) (index : Nat) (world : World) :
    ((world.onRun index step).engine.bank.get? name).isSome =
      ((world.engine.bank.get? name).isSome || (world.runs[index]?).any creates) := by
  cases found : world.runs[index]? with
  | none =>
      rw [onRun, found, Option.any_none, Bool.or_false]
  | some run =>
      rw [onRun_of_some found, Option.any_some]
      exact given world.engine run

end World

namespace SharingStep

variable {name : String} {world : World}

theorem creates_settle {index : Nat} {ending : CallEnd} :
    Creates name world (alone (.world (.settle index ending))) ↔
      (world.runs[index]?).any (·.isCalling name) = true := by
  rw [creates_of_none rfl]
  constructor
  · rintro (⟨_, _, run, same, found, calling⟩ | ⟨_, _, _, same, -⟩)
    · cases same
      rw [found, Option.any_some, calling]
    · cases same
  · intro calling
    obtain ⟨run, found, calls⟩ := (Option.any_eq_true _ _).mp calling
    exact .inl ⟨index, ending, run, rfl, found, calls⟩

theorem creates_pull {own : InstanceId} {states : Table SharedState} :
    Creates name world (pull own (.ok states)) ↔
      ∃ opened, (states.get? name).bind (Mirror.opening? own) = some opened := by
  rw [creates_of_none rfl]
  constructor
  · rintro (⟨_, _, _, same, -⟩ | ⟨opened, _, _, same, offers⟩)
    · cases same
    · cases same
      exact ⟨opened, offers⟩
  · rintro ⟨opened, offers⟩
    exact .inr ⟨opened, own, states, rfl, offers⟩

/-- A step of another kind creates no breaker. -/
theorem not_creates {step : SharingStep} (here : step.operation? = none)
    (unsettled : ∀ index ending, step ≠ alone (.world (.settle index ending)))
    (unshared : ∀ own states, step ≠ pull own (.ok states)) : ¬step.Creates name world := by
  rw [creates_of_none here]
  rintro (⟨index, ending, _, same, -⟩ | ⟨_, own, states, same, -⟩)
  · exact unsettled index ending same
  · exact unshared own states same

theorem isSome_perform_of_idle {step : SharingStep} (idle : ¬step.Creates name world)
    (same : ((step.perform world).engine.bank.get? name).isSome =
      (world.engine.bank.get? name).isSome) :
    ((step.perform world).engine.bank.get? name).isSome = true ↔
      (world.engine.bank.get? name).isSome = true ∨ step.Creates name world := by
  rw [same, or_iff_left idle]

/-- A provider has a breaker after a step if it had one or the step creates one. -/
theorem isSome_perform (step : SharingStep) (world : World) (name : String) :
    ((step.perform world).engine.bank.get? name).isSome = true ↔
      (world.engine.bank.get? name).isSome = true ∨ step.Creates name world := by
  cases step with
  | alone step =>
      cases step with
      | operate operation =>
          rw [creates_of_operation rfl]
          exact Engine.isSome_onBank operation world.engine name
      | world step =>
          cases step with
          | begin request limit =>
              have idle : ¬Creates name world (alone (.world (.begin request limit))) :=
                not_creates rfl (by simp) (by simp)
              exact isSome_perform_of_idle idle (World.isSome_begin request limit world name)
          | advance index stopped =>
              refine isSome_perform_of_idle (not_creates rfl (by simp) (by simp)) ?_
              have none (engine : Engine) (run : Run) :=
                (Run.isSome_advance stopped engine run name).trans (Bool.or_false _).symm
              refine (World.isSome_onRun none index world).trans ?_
              cases world.runs[index]? <;> exact Bool.or_false _
          | settle index ending =>
              rw [creates_settle, ← Bool.or_eq_true]
              have given (engine : Engine) (run : Run) := Run.isSome_settle ending engine run name
              exact Bool.eq_iff_iff.mp (World.isSome_onRun given index world)
          | aside aside =>
              cases aside with
              | bank operation _ =>
                  rw [creates_of_operation rfl]
                  exact Engine.isSome_onBank operation world.engine name
              | plan request =>
                  have unmoved := world.engine.bank_plan request
                  refine isSome_perform_of_idle (not_creates rfl (by simp) (by simp)) ?_
                  exact congrArg (fun bank => (bank.get? name).isSome) unmoved
              | register _ | pass _ | select _ | takeJournal =>
                  exact isSome_perform_of_idle (not_creates rfl (by simp) (by simp)) rfl
  | pull own fetched =>
      cases fetched with
      | error fault => exact isSome_perform_of_idle (not_creates rfl (by simp) (by simp)) rfl
      | ok states =>
          rw [creates_pull]
          exact Engine.isSome_pull own states world.engine name

theorem not_happens_nil {kind : World → SharingStep → Prop} {start : World} :
    ¬Happens kind start [] := by
  rintro ⟨earlier, step, later, empty, -⟩
  exact List.append_ne_nil_of_right_ne_nil earlier (List.cons_ne_nil step later) empty.symm

theorem happens_concat {kind : World → SharingStep → Prop} {start : World}
    {steps : List SharingStep} {last : SharingStep} :
    Happens kind start (steps ++ [last]) ↔
      Happens kind start steps ∨ kind (steps.foldl perform start) last := by
  constructor
  · rintro ⟨earlier, step, later, split, here⟩
    induction later using List.reverseRecOn with
    | nil =>
        obtain ⟨rfl, same⟩ := List.append_inj' split rfl
        exact .inr ((List.singleton_inj.mp same).symm ▸ here)
    | append_singleton later final _ =>
        rw [← List.cons_append, ← List.append_assoc] at split
        exact .inl ⟨earlier, step, later, (List.append_inj' split rfl).1, here⟩
  · rintro (⟨earlier, step, later, rfl, here⟩ | here)
    · exact ⟨earlier, step, later ++ [last], List.append_assoc _ _ _, here⟩
    · exact ⟨steps, last, [], rfl, here⟩

/-- A provider has a breaker after some steps if it had one or one of the steps creates it. -/
theorem isSome_run (start : World) (steps : List SharingStep) (name : String) :
    ((steps.foldl perform start).engine.bank.get? name).isSome = true ↔
      (start.engine.bank.get? name).isSome = true ∨ Happens (fun world step =>
        step.Creates name world) start steps := by
  induction steps using List.reverseRecOn with
  | nil => exact (or_iff_left not_happens_nil).symm
  | append_singleton steps last ih =>
      rw [List.foldl_concat, isSome_perform, ih, happens_concat, or_assoc]

/-- An opening that is offered is adopted or refused. -/
theorem creates_iff {step : SharingStep} :
    step.Creates name world ↔
      step.Records name world ∨ step.Adopts name world ∨ step.Refuses name world ∨
        step.Resets name := by
  have offers_iff : (∃ opened, step.Offers name opened) ↔
      step.Adopts name world ∨ step.Refuses name world := by
    rw [Adopts, Refuses, ← exists_or]
    refine exists_congr fun opened => ?_
    rw [← and_or_left, and_iff_left (Bool.eq_false_or_eq_true _)]
  rw [Creates, offers_iff, or_assoc]

end SharingStep

/-! ## The law -/

/-- A provider is known to have a breaker just if the outcome of a call to it has been recorded, an
opening has been offered to it or it has been reset.  A refused opening adds a fresh breaker of a
provider without one to the listing, and changes nothing else in it; so does a pull that adopts
nothing, for each provider for which another instance has published an opening, and one that fails
changes nothing. -/
theorem creation_law (settings : EngineSettings) (clock : Clock) (steps : List SharingStep) :
    let start := World.start settings clock
    let engine := (steps.foldl SharingStep.perform start).engine
    (∀ name, (∃ snapshot, (engine.breakerState name).2 = .ok snapshot) ↔
      SharingStep.Happens (fun world step =>
        step.Records name world ∨ step.Adopts name world ∨ step.Refuses name world ∨
          step.Resets name) start steps) ∧
    (∀ name opened, (engine.onBank (.adopt name opened)).2 = false →
      engine.Adds (· = name) (engine.onBank (.adopt name opened)).1) ∧
    (∀ own states, (Mirror.pull own engine.clock.moment (.ok states) engine.bank).adopted = 0 →
      engine.Adds (fun name => ((states.get? name).bind (Mirror.opening? own)).isSome)
        (engine.pull own (.ok states))) ∧
    ∀ own fault, (engine.pull own (.error fault)).listing = engine.listing := by
  intro start engine
  refine ⟨fun name => ?_, fun _ _ => Engine.adds_of_refused,
    fun _ _ => Engine.adds_of_idle_pull, fun _ _ => rfl⟩
  have unborn : ¬(start.engine.bank.get? name).isSome = true :=
    Option.not_isSome_iff_eq_none.mpr (settings.get?_bank name)
  rw [Engine.breakerState_isOk_iff, SharingStep.isSome_run, or_iff_right unborn]
  simp only [SharingStep.creates_iff]

/-- An opening that is refused, because it is two minutes old, creates a breaker. -/
theorem refused_opening_creates :
    let start := World.start .standard .start
    let wait : SharingStep := .alone (.world (.aside (.pass (.ofSeconds 120))))
    let wall := Clock.start.moment.wall
    let offer : SharingStep := .alone (.operate (.adopt "p" wall))
    let before := ([wait].foldl SharingStep.perform start).engine
    let after := ([wait, offer].foldl SharingStep.perform start).engine
    (¬SharingStep.Happens (fun world step =>
      step.Records "p" world ∨ step.Adopts "p" world ∨ step.Resets "p") start [wait, offer]) ∧
    (before.onBank (.adopt "p" wall)).2 = false ∧
    before.listing.names = [] ∧ after.listing.names = ["p"] ∧
    ∃ snapshot, (after.breakerState "p").2 = .ok snapshot := by
  intro start wait wall offer before after
  have refused : (before.onBank (.adopt "p" wall)).2 = false := by decide
  refine ⟨?_, refused, by decide, by decide, _, rfl⟩
  change ¬SharingStep.Happens _ start (([] ++ [wait]) ++ [offer])
  rw [SharingStep.happens_concat, SharingStep.happens_concat]
  rintro ((none | waiting) | offering)
  · exact SharingStep.not_happens_nil none
  · simp [wait, SharingStep.Records, SharingStep.Adopts, SharingStep.Offers, SharingStep.Resets,
      SharingStep.operation?] at waiting
  · rcases offering with recorded | ⟨opened, given, adopted⟩ | reset
    · simp [offer, SharingStep.Records, SharingStep.operation?] at recorded
    · obtain rfl : wall = opened := by
        simpa [offer, SharingStep.Offers, SharingStep.operation?] using given
      exact absurd (refused.symm.trans adopted) Bool.false_ne_true
    · simp [offer, SharingStep.Resets, SharingStep.operation?] at reset

end ProviderRouting
