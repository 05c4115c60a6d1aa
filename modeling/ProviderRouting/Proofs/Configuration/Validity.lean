import ProviderRouting.Configuration.Settings
import ProviderRouting.Proofs.Engine.Creation
import ProviderRouting.Proofs.Number.Comparison

/-!
# Valid settings make valid breakers

The thresholds of a provider are computed twice: when settings are checked, and when an engine is
built from them, which hands them to its bank, from where a breaker has them when it comes into
being.  Both computations give the same, so an engine with settings that passed the check never has
a breaker with thresholds that would not.
-/

namespace ProviderRouting

open Binary64

/-! ## What the check is about -/

/-- Thresholds with which a breaker can open and close. -/
structure Thresholds.Usable (thresholds : Thresholds) : Prop where
  /-- A failure is needed to open. -/
  failures : 1 ≤ thresholds.failures.toNat
  /-- A successful probe is needed to close. -/
  successes : 1 ≤ thresholds.successes.toNat
  /-- Outcomes stay in the window for a while. -/
  window : 1 ≤ thresholds.windowSeconds.toNat
  /-- The rate threshold is a number. -/
  number : thresholds.rate.isNaN = false
  /-- It is above zero. -/
  positive : 0.0 < thresholds.rate
  /-- It is at most one. -/
  bounded : thresholds.rate ≤ 1.0

/-- Thresholds pass the check just if they are usable. -/
theorem Thresholds.validate_eq_ok_iff {thresholds : Thresholds} :
    thresholds.validate = .ok () ↔ thresholds.Usable := by
  have counted (count : UInt32) : count ≠ 0 ↔ 1 ≤ count.toNat := by
    rw [← UInt32.toNat_inj.ne]
    exact Nat.one_le_iff_ne_zero.symm
  have window : thresholds.windowSeconds ≠ 0 ↔ 1 ≤ thresholds.windowSeconds.toNat := by
    rw [← UInt64.toNat_inj.ne]
    exact Nat.one_le_iff_ne_zero.symm
  have checked : thresholds.validate = .ok () ↔ thresholds.failures ≠ 0 ∧
      thresholds.successes ≠ 0 ∧ thresholds.windowSeconds ≠ 0 ∧
      0.0 < thresholds.rate ∧ thresholds.rate ≤ 1.0 := by
    rw [validate]
    split_ifs <;> simp_all
  rw [checked, counted, counted, window]
  constructor
  · rintro ⟨failures, successes, window, positive, bounded⟩
    exact ⟨failures, successes, window, (lt_iff.mp positive).2.1, positive, bounded⟩
  · rintro ⟨failures, successes, window, -, positive, bounded⟩
    exact ⟨failures, successes, window, positive, bounded⟩

namespace Settings

variable {settings : Settings} {provider : String}

theorem breakerFor_of_unlisted (unlisted : provider ∉ settings.providerBreakers.names) :
    settings.breakerFor provider = settings.breaker := by
  have none : settings.providerBreakers.get? provider = none := by
    simpa [Table.mem_names_iff] using unlisted
  rw [breakerFor, none]

theorem providerFault_eq_none_iff :
    settings.providerFault provider = none ↔ (settings.breakerFor provider).validate = .ok () := by
  rw [providerFault]
  cases (settings.breakerFor provider).validate with
  | ok done => simp
  | error fault => simp

/-- Settings pass the check just if the thresholds of every provider do, those of providers that are
not listed among them, and nothing else is wrong. -/
theorem validate_eq_ok_iff :
    settings.validate = .ok () ↔
      settings.breaker.validate = .ok () ∧
        (∀ provider, (settings.breakerFor provider).validate = .ok ()) ∧
        settings.otherFault = none := by
  rw [validate]
  cases common : settings.breaker.validate with
  | error fault => simp
  | ok done =>
    have listed : settings.providerBreakers.names.findSome? settings.providerFault = none ↔
        ∀ provider, (settings.breakerFor provider).validate = .ok () := by
      simp only [List.findSome?_eq_none_iff, providerFault_eq_none_iff]
      constructor
      · intro valid provider
        by_cases listed : provider ∈ settings.providerBreakers.names
        · exact valid provider listed
        · rw [breakerFor_of_unlisted listed, common]
      · exact fun valid provider _ => valid provider
    rw [← listed]
    cases settings.providerBreakers.names.findSome? settings.providerFault with
    | some fault => simp
    | none => cases settings.otherFault <;> simp

end Settings

/-! ## Thresholds of an engine -/

namespace Bank

theorem thresholdsFor_setProvider (provider name : String) (thresholds : Thresholds) (bank : Bank) :
    (bank.setProvider provider thresholds).thresholdsFor name =
      if provider = name then thresholds else bank.thresholdsFor name := by
  rw [thresholdsFor, setProvider, Table.get?_insert]
  split <;> rfl

/-- Setting the thresholds of several providers gives each of them its own. -/
theorem thresholdsFor_setProviders (own : String → Thresholds) (names : List String) (bank : Bank)
    (name : String) :
    ((names.map fun provider => (provider, own provider)).foldl
        (fun bank entry => bank.setProvider entry.1 entry.2) bank).thresholdsFor name =
      if name ∈ names then own name else bank.thresholdsFor name := by
  induction names generalizing bank with
  | nil => simp
  | cons provider names ih =>
    rw [List.map_cons, List.foldl_cons, ih, thresholdsFor_setProvider]
    by_cases later : name ∈ names
    · simp [later]
    · by_cases here : provider = name
      · simp [here]
      · simp [later, here, Ne.symm here]

/-- From one bank to another the thresholds in force have stayed the same, and breakers that kept to
theirs still do. -/
structure Steady (before after : Bank) : Prop where
  /-- The thresholds in force are the same. -/
  thresholds : ∀ name, after.thresholdsFor name = before.thresholdsFor name
  /-- Breakers keep to them. -/
  governed : before.Governed → after.Governed

namespace Steady

variable {first second third : Bank}

theorem refl (bank : Bank) : bank.Steady bank := ⟨fun _ => rfl, id⟩

theorem of_eq (same : second = first) : first.Steady second := same ▸ refl first

theorem trans (one : first.Steady second) (two : second.Steady third) : first.Steady third where
  thresholds name := (two.thresholds name).trans (one.thresholds name)
  governed := two.governed ∘ one.governed

end Steady

theorem steady_apply (operation : BankOperation) (unset : ¬operation.Sets) (moment : Moment)
    (bank : Bank) : bank.Steady (bank.apply operation moment).bank where
  thresholds := thresholdsFor_apply unset moment bank
  governed governed := governed_apply governed operation moment

end Bank

namespace Mirror

theorem steady_adoptState (own : InstanceId) (moment : Moment) (outcome : PullOutcome)
    (provider : String) (state : SharedState) :
    outcome.bank.Steady (adoptState own moment outcome provider state).bank := by
  rw [adoptState]
  cases opening? own state with
  | none => exact .refl _
  | some opened => exact Bank.steady_apply (.adopt provider opened) id moment outcome.bank

theorem steady_pull (own : InstanceId) (moment : Moment)
    (fetched : Except StoreFault (Table SharedState)) (bank : Bank) :
    bank.Steady (pull own moment fetched bank).bank := by
  cases fetched with
  | error fault => exact .refl bank
  | ok states =>
    have each (entries : List (String × SharedState)) : ∀ outcome : PullOutcome,
        outcome.bank.Steady (adoptEach own moment entries outcome).bank := by
      induction entries with
      | nil => exact fun outcome => .refl outcome.bank
      | cons entry rest ih =>
        exact fun outcome => (steady_adoptState own moment outcome entry.1 entry.2).trans (ih _)
    exact each states.entries ⟨bank, 0, []⟩

end Mirror

namespace Run

theorem steady_asked {engine asked : Engine} {run : Run} {provider : String} {granted : Bool}
    (answer : (run.enter engine).onBank (.allow provider) = (asked, granted)) :
    engine.bank.Steady asked.bank := by
  have same : asked = ((run.enter engine).onBank (.allow provider)).1 := by rw [answer]
  rw [same, ← bank_enter engine run]
  exact Bank.steady_apply (.allow provider) id _ _

theorem steady_advance (stopped : Bool) (engine : Engine) (run : Run) :
    engine.bank.Steady (run.advance stopped engine).1.bank := by
  refine advance_cases stopped engine run ?waiting ?told ?denied ?admitted ?resorted ?ended
  case waiting => exact fun _ => .refl _
  case told =>
    intro attempt rest _
    rw [stop, finish]
    exact .of_eq (RunProgress.bank_close _)
  case denied => exact fun attempt rest asked _ answer => steady_asked answer
  case admitted => exact fun attempt rest asked _ answer => steady_asked answer
  case resorted => exact fun _ _ _ _ _ => .refl _
  case ended => exact fun _ _ => .of_eq (RunProgress.bank_close _)

theorem steady_recordOutcome (provider : String) (succeeded : Bool) (latency : Duration)
    (lastResort : Bool) (engine : Engine) :
    engine.bank.Steady (engine.recordOutcome provider succeeded latency lastResort).bank := by
  cases lastResort with
  | false => exact Bank.steady_apply (.record provider succeeded) id _ _
  | true => exact Bank.steady_apply (.bypass provider succeeded) id _ _

theorem steady_settle (ending : CallEnd) (engine : Engine) (run : Run) :
    engine.bank.Steady (run.settle ending engine).1.bank := by
  refine settle_cases ending engine run ?idle ?succeeded ?failed ?cancelled ?dropped
  case idle => exact .refl _
  case succeeded =>
    intro attempt lastResort started rest response latency _ _
    exact (steady_recordOutcome _ _ _ _ engine).trans (.of_eq (RunProgress.bank_close _))
  case failed =>
    intro attempt lastResort started rest error latency _ _
    exact steady_recordOutcome _ _ _ _ engine
  case cancelled =>
    intro attempt lastResort started rest latency _ _
    exact (steady_recordOutcome _ _ _ _ engine).trans (.of_eq (RunProgress.bank_close _))
  case dropped =>
    intro attempt lastResort started rest latency _ _
    exact steady_recordOutcome _ _ latency _ engine

end Run

theorem World.steady_onRun {step : Engine → Run → Engine × Run}
    (steady : ∀ engine run, Bank.Steady engine.bank (step engine run).1.bank) (index : Nat)
    (world : World) : world.engine.bank.Steady (world.onRun index step).engine.bank := by
  cases found : world.runs[index]? with
  | none => rw [onRun, found]; exact .refl _
  | some run => rw [onRun_of_some found]; exact steady world.engine run

namespace SharingStep

/-- A step sets thresholds. -/
def Sets (step : SharingStep) : Prop :=
  ∃ operation, step.operation? = some operation ∧ operation.Sets

/-- A step that sets no thresholds lets breakers keep to theirs. -/
theorem steady_perform {step : SharingStep} (unset : ¬step.Sets) (world : World) :
    world.engine.bank.Steady (step.perform world).engine.bank := by
  have onBank {operation : BankOperation} (here : step.operation? = some operation) :
      world.engine.bank.Steady (world.engine.onBank operation).1.bank :=
    Bank.steady_apply operation (fun sets => unset ⟨operation, here, sets⟩) _ _
  cases step with
  | pull own fetched => exact Mirror.steady_pull own _ fetched _
  | alone step =>
    cases step with
    | operate operation => exact onBank rfl
    | world step =>
      cases step with
      | begin request limit =>
        have planned := world.engine.bank_plan request
        change world.engine.bank.Steady (world.next (.begin request limit)).engine.bank
        cases made : world.engine.plan request with
        | mk engine result =>
          rw [made] at planned
          cases result with
          | error fault =>
            rw [World.next_begin_of_error made]
            exact .of_eq planned
          | ok plan =>
            rw [World.next_begin_of_ok made]
            exact .of_eq planned
      | advance index stopped => exact World.steady_onRun (Run.steady_advance stopped) index world
      | settle index ending => exact World.steady_onRun (Run.steady_settle ending) index world
      | aside aside =>
        cases aside with
        | bank operation nothing => exact onBank rfl
        | plan request => exact .of_eq (world.engine.bank_plan request)
        | register _ | pass _ | select _ | takeJournal => exact .refl _

theorem steady_run (steps : List SharingStep) (unset : ∀ step ∈ steps, ¬step.Sets)
    (world : World) : world.engine.bank.Steady (steps.foldl perform world).engine.bank := by
  induction steps generalizing world with
  | nil => exact .refl _
  | cons step steps ih =>
    obtain ⟨first, rest⟩ := List.forall_mem_cons.mp unset
    exact (steady_perform first world).trans (ih rest _)

end SharingStep

/-! ## Engines with valid settings -/

namespace Settings

variable {settings : Settings}

/-- The bank of an engine gives every provider the thresholds that the settings do. -/
theorem thresholdsFor_bank (settings : Settings) (provider : String) :
    settings.engineSettings.bank.thresholdsFor provider = settings.breakerFor provider := by
  refine (Bank.thresholdsFor_setProviders settings.breakerFor settings.providerBreakers.names
    (.ofDefaults settings.breaker) provider).trans ?_
  split
  · rfl
  · rename_i unlisted
    exact (breakerFor_of_unlisted unlisted).symm

theorem otherFault_eq_none_iff :
    settings.otherFault = none ↔
      (0.0 < settings.selection.factor ∧ settings.selection.factor ≤ 1.0) ∧
      (0.0 ≤ settings.selection.degradedRate ∧ settings.selection.degradedRate ≤ 1.0) ∧
      settings.maxRetries ≠ 0 := by
  rw [otherFault]
  split_ifs <;> simp_all

end Settings

/-- Settings that pass the check give an engine that goes by them: for every provider, listed or
not, its bank has the thresholds of the settings, which are usable, and so has every breaker that
comes into being later while no others are set; the smoothing factor is that of the settings unless
it is too small to tell from zero, and so is the number of planned attempts that a run examines.
Settings that give any provider thresholds that do not pass the check do not pass it either. -/
theorem validity_law (settings : Settings) :
    (settings.validate = .ok () → ∀ clock,
      let start := World.start settings.engineSettings clock
      (∀ provider,
        start.engine.bank.thresholdsFor provider = settings.breakerFor provider ∧
        (settings.breakerFor provider).validate = .ok () ∧
        (settings.breakerFor provider).Usable) ∧
      (∀ steps : List SharingStep, (∀ step ∈ steps, ¬step.Sets) →
        let bank := (steps.foldl SharingStep.perform start).engine.bank
        ∀ provider, bank.thresholdsFor provider = settings.breakerFor provider ∧
          ∀ breaker, bank.get? provider = some breaker →
            breaker.thresholds = settings.breakerFor provider) ∧
      (epsilon ≤ settings.selection.factor →
        start.engine.health.factor = settings.selection.factor) ∧
      start.engine.maxRetries = settings.maxRetries ∧ 1 ≤ start.engine.maxRetries) ∧
    ((∃ provider fault, (settings.breakerFor provider).validate = .error fault) →
      ∃ fault, settings.validate = .error fault) := by
  constructor
  · intro valid clock
    obtain ⟨-, usable, sound⟩ := Settings.validate_eq_ok_iff.mp valid
    obtain ⟨⟨-, bounded⟩, -, retries⟩ := Settings.otherFault_eq_none_iff.mp sound
    have kept : max settings.maxRetries 1 = settings.maxRetries := by omega
    refine ⟨fun provider => ⟨settings.thresholdsFor_bank provider, usable provider,
      Thresholds.validate_eq_ok_iff.mp (usable provider)⟩, ?_,
      fun large => clamp_of_between large bounded, kept, Nat.le_max_right _ _⟩
    intro steps unset bank provider
    have steady := SharingStep.steady_run steps unset (.start settings.engineSettings clock)
    have governed := steady.governed (Session.governed_bank settings.engineSettings)
    have reported : bank.thresholdsFor provider = settings.breakerFor provider :=
      (steady.thresholds provider).trans (settings.thresholdsFor_bank provider)
    exact ⟨reported, fun breaker held => (governed provider breaker held).trans reported⟩
  · rintro ⟨provider, fault, unusable⟩
    cases checked : settings.validate with
    | error fault => exact ⟨fault, rfl⟩
    | ok done =>
      have usable := (Settings.validate_eq_ok_iff.mp checked).2.1 provider
      rw [usable] at unusable
      cases unusable

/-- The standard settings with other thresholds for one provider, and the breaker of that provider
once a call to it has failed; with a rate threshold that is not a number they do not pass. -/
theorem validity_law_listed :
    let listing (rate : Float) : Settings :=
      let own := { (default : ThresholdFields) with failures := some 2, rate := some rate }
      { Settings.standard default with providerBreakers := .ofList [("listed", own)] }
    let settings := listing 0.25
    let start := World.start settings.engineSettings .start
    let failing : SharingStep := .alone (.operate (.record "listed" false))
    settings.validate = .ok () ∧ ¬failing.Sets ∧
      (∃ breaker, (failing.perform start).engine.bank.get? "listed" = some breaker ∧
        breaker.thresholds = settings.breakerFor "listed" ∧ breaker.thresholds.failures = 2) ∧
      start.engine.health.factor = settings.selection.factor ∧ start.engine.maxRetries = 3 ∧
      ∃ fault, (listing (0.0 / 0.0)).validate = .error fault := by
  intro listing settings start failing
  have valid : settings.validate = .ok () := by
    have checked : settings.validate.isOk = true := by decide +kernel
    cases outcome : settings.validate with
    | ok done => rfl
    | error fault =>
      rw [outcome] at checked
      exact absurd checked Bool.false_ne_true
  have unset : ¬failing.Sets := by
    rintro ⟨operation, here, sets⟩
    cases Option.some.inj here
    exact sets
  have unusable : ((listing (0.0 / 0.0)).breakerFor "listed").validate =
      .error (.rate (0.0 / 0.0)) := by
    have unsound : ¬((0.0 / 0.0 : Float) > 0.0 ∧ (0.0 / 0.0 : Float) ≤ 1.0) := by decide +kernel
    exact if_neg unsound
  obtain ⟨-, later, factor, retries, -⟩ := (validity_law settings).1 valid .start
  have kept := (later [failing] (by simpa using unset) "listed").2 _ rfl
  exact ⟨valid, unset, ⟨_, rfl, kept, congrArg Thresholds.failures kept⟩,
    factor (by decide +kernel), retries, (validity_law (listing (0.0 / 0.0))).2 ⟨_, _, unusable⟩⟩

end ProviderRouting
