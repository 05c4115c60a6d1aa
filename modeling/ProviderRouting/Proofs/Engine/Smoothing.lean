import ProviderRouting.Proofs.Engine.Creation
import ProviderRouting.Proofs.Number.Comparison

/-!
# One smoothing factor

The smoothing factor is kept in three places: the selection settings have it as it was given, and
the tracker and the statistics of every provider have it brought into range.  It is brought into
range when settings are replaced, and a second time when a provider is tracked from then on.  Since
that changes nothing the second time, all of them smooth by the factor of the current settings,
however the use of an engine and of its health statistics is interleaved.
-/

namespace ProviderRouting

open Binary64

theorem clamped_clampFactor (factor : Float) :
    Clamped factor epsilon 1.0 (clampFactor factor) :=
  clamped_clamp (by decide +kernel) factor

theorem clampFactor_clampFactor (factor : Float) :
    clampFactor (clampFactor factor) = clampFactor factor :=
  clamp_clamp (by decide +kernel) factor

/-! ## Trackers -/

namespace HealthTracker

/-- A tracker smooths by one factor, that of every provider it tracks and of those to come. -/
structure SmoothsBy (factor : Float) (tracker : HealthTracker) : Prop where
  /-- Providers to come get the factor. -/
  later : tracker.factor = factor
  /-- Tracked providers have it. -/
  tracked : ∀ provider stats, tracker.get? provider = some stats → stats.factor = factor

variable {factor : Float} {tracker : HealthTracker}

theorem smoothsBy_ofFactor (factor : Float) : (ofFactor factor).SmoothsBy (clampFactor factor) :=
  ⟨rfl, fun _ _ found => absurd found nofun⟩

theorem smoothsBy_setFactor (factor : Float) (tracker : HealthTracker) :
    (tracker.setFactor factor).SmoothsBy (clampFactor factor) where
  later := rfl
  tracked provider stats found := by
    have changed : (tracker.get? provider).map (·.setFactor factor) = some stats :=
      (Table.get?_map _ _ _).symm.trans found
    obtain ⟨old, -, rfl⟩ := Option.map_eq_some_iff.mp changed
    rfl

/-- The statistics of a provider smooth by the factor, tracked or not. -/
theorem SmoothsBy.factor_getOrFresh (smooths : tracker.SmoothsBy (clampFactor factor))
    (provider : String) : (tracker.getOrFresh provider).factor = clampFactor factor := by
  rw [getOrFresh]
  cases found : tracker.get? provider with
  | some stats => exact smooths.tracked provider stats found
  | none =>
      change clampFactor tracker.factor = _
      rw [smooths.later, clampFactor_clampFactor]

/-- Statistics that smooth by the factor may be put in the place of others. -/
theorem SmoothsBy.insert (smooths : tracker.SmoothsBy factor) {stats : HealthStats}
    (same : stats.factor = factor) (provider : String) :
    SmoothsBy factor { tracker with stats := tracker.stats.insert provider stats } where
  later := smooths.later
  tracked other found lookup := by
    have inserted : (if provider = other then some stats else tracker.get? other) = some found :=
      (Table.get?_insert _ _ _ _).symm.trans lookup
    split at inserted
    · obtain rfl := Option.some.inj inserted
      exact same
    · exact smooths.tracked other found inserted

theorem SmoothsBy.touch (smooths : tracker.SmoothsBy (clampFactor factor)) (provider : String) :
    (tracker.touch provider).SmoothsBy (clampFactor factor) :=
  smooths.insert (smooths.factor_getOrFresh provider) provider

theorem SmoothsBy.record (smooths : tracker.SmoothsBy (clampFactor factor)) (provider : String)
    (succeeded : Bool) (latency : Duration) :
    (tracker.record provider succeeded latency).SmoothsBy (clampFactor factor) := by
  have same : ((tracker.getOrFresh provider).record succeeded latency).factor =
      clampFactor factor := smooths.factor_getOrFresh provider
  exact smooths.insert same provider

/-- Another factor changes nothing of what a tracker has averaged and counted. -/
theorem get?_setFactor (factor : Float) (tracker : HealthTracker) (provider : String) :
    (tracker.setFactor factor).get? provider =
      (tracker.get? provider).map fun stats => { stats with factor := clampFactor factor } :=
  Table.get?_map _ _ _

theorem snapshots_setFactor (factor : Float) (tracker : HealthTracker) :
    (tracker.setFactor factor).snapshots = tracker.snapshots :=
  List.map_map

end HealthTracker

/-! ## What a step does -/

namespace Engine

/-- All that a step of an engine's use does to the health statistics and the selection settings;
settings that replace the old ones are named. -/
inductive Tracks (before after : Engine) : Option Selection → Prop where
  /-- Nothing. -/
  | kept (health : after.health = before.health) (selection : after.selection = before.selection) :
    Tracks before after none
  /-- The outcome of a call is recorded. -/
  | recorded (provider : String) (succeeded : Bool) (latency : Duration)
    (health : after.health = before.health.record provider succeeded latency)
    (selection : after.selection = before.selection) : Tracks before after none
  /-- A provider is tracked. -/
  | touched (provider : String) (health : after.health = before.health.touch provider)
    (selection : after.selection = before.selection) : Tracks before after none
  /-- The settings are replaced. -/
  | selected (selection : Selection)
    (health : after.health = before.health.setFactor selection.factor)
    (chosen : after.selection = selection) : Tracks before after (some selection)

variable {before middle after : Engine} {chosen : Option Selection}

theorem Tracks.selection_eq (tracks : before.Tracks after chosen) :
    after.selection = chosen.getD before.selection := by
  cases tracks <;> assumption

/-- What leaves the statistics and the settings alone may follow. -/
theorem Tracks.of_same (tracks : before.Tracks middle chosen)
    (health : after.health = middle.health) (selection : after.selection = middle.selection) :
    before.Tracks after chosen := by
  cases tracks with
  | kept same settings => exact .kept (health.trans same) (selection.trans settings)
  | recorded provider succeeded latency same settings =>
      exact .recorded provider succeeded latency (health.trans same) (selection.trans settings)
  | touched provider same settings =>
      exact .touched provider (health.trans same) (selection.trans settings)
  | selected settings same chosen =>
      exact .selected settings (health.trans same) (selection.trans chosen)

/-- The health statistics of an engine smooth by the factor of its selection settings, brought into
range. -/
def SmoothsBySettings (engine : Engine) : Prop :=
  engine.health.SmoothsBy (clampFactor engine.selection.factor)

theorem Tracks.smooths (tracks : before.Tracks after chosen) (smooths : before.SmoothsBySettings) :
    after.SmoothsBySettings := by
  cases tracks with
  | kept health selection =>
      rw [SmoothsBySettings, health, selection]
      exact smooths
  | recorded provider succeeded latency health selection =>
      rw [SmoothsBySettings, health, selection]
      exact smooths.record provider succeeded latency
  | touched provider health selection =>
      rw [SmoothsBySettings, health, selection]
      exact smooths.touch provider
  | selected selection health chosen =>
      rw [SmoothsBySettings, health, chosen]
      exact HealthTracker.smoothsBy_setFactor selection.factor before.health

theorem tracks_recordOutcome (provider : String) (succeeded : Bool) (latency : Duration)
    (lastResort : Bool) (engine : Engine) :
    engine.Tracks (engine.recordOutcome provider succeeded latency lastResort) none :=
  .recorded provider succeeded latency rfl rfl

theorem tracks_plan (request : PlanRequest) (engine : Engine) :
    engine.Tracks (engine.plan request).1 none := by
  unfold plan
  split <;> exact .kept rfl rfl

end Engine

namespace RunProgress

variable {σ : Type} (progress : RunProgress σ)

theorem health_close : progress.close.health = progress.engine.health := by
  unfold close
  split_ifs <;> rfl

theorem selection_close : progress.close.selection = progress.engine.selection := by
  unfold close
  split_ifs <;> rfl

end RunProgress

namespace Run

variable {before engine : Engine} {chosen : Option Selection} {run : Run}

/-- Coming to an end adds nothing to what was done before. -/
theorem tracks_finish (tracks : before.Tracks engine chosen) (run : Run) :
    before.Tracks (run.finish engine).1 chosen :=
  tracks.of_same (RunProgress.health_close ⟨engine, (), run.report⟩)
    (RunProgress.selection_close ⟨engine, (), run.report⟩)

theorem tracks_asked {provider : String} {asked : Engine} {granted : Bool}
    (answer : (run.enter engine).onBank (.allow provider) = (asked, granted)) :
    engine.Tracks asked none := by
  have same : asked = ((run.enter engine).onBank (.allow provider)).1 := by rw [answer]
  rw [same, enter]
  split <;> exact .kept rfl rfl

/-- Until a call ends, a run leaves the health statistics alone. -/
theorem tracks_advance (stopped : Bool) (engine : Engine) (run : Run) :
    engine.Tracks (run.advance stopped engine).1 none := by
  refine advance_cases stopped engine run ?waiting ?told ?denied ?admitted ?resorted ?ended
  case waiting => exact fun _ => .kept rfl rfl
  case told => exact fun _ _ _ => tracks_finish (.kept rfl rfl) _
  case denied => exact fun _ _ _ _ answer => tracks_asked answer
  case admitted => exact fun _ _ _ _ answer => tracks_asked answer
  case resorted => exact fun _ _ _ _ _ => .kept rfl rfl
  case ended => exact fun _ _ => tracks_finish (.kept rfl rfl) _

/-- However a call ends, its outcome is recorded. -/
theorem tracks_settle (ending : CallEnd) (engine : Engine) (run : Run) :
    engine.Tracks (run.settle ending engine).1 none := by
  refine settle_cases ending engine run ?idle ?succeeded ?failed ?cancelled ?dropped
  case idle => exact .kept rfl rfl
  case succeeded =>
    intro attempt lastResort started rest response latency _ _
    exact tracks_finish (engine.tracks_recordOutcome attempt.provider true latency lastResort) _
  case failed =>
    intro attempt lastResort started rest error latency _ _
    exact engine.tracks_recordOutcome attempt.provider false latency lastResort
  case cancelled =>
    intro attempt lastResort started rest latency _ _
    exact tracks_finish (engine.tracks_recordOutcome attempt.provider false latency lastResort) _
  case dropped =>
    intro attempt lastResort started rest latency _ _
    exact .recorded attempt.provider false latency rfl rfl

end Run

theorem World.tracks_onRun {step : Engine → Run → Engine × Run}
    (tracks : ∀ engine run, Engine.Tracks engine (step engine run).1 none) (index : Nat)
    (world : World) : world.engine.Tracks (world.onRun index step).engine none := by
  cases found : world.runs[index]? with
  | none => rw [onRun, found]; exact .kept rfl rfl
  | some run => rw [onRun_of_some found]; exact tracks world.engine run

/-- A step in the use of an engine whose health statistics are used by others, too. -/
inductive TrackingStep where
  /-- The engine is used. -/
  | shared (step : SharingStep)
  /-- The outcome of a call made elsewhere is recorded. -/
  | record (provider : String) (succeeded : Bool) (latency : Duration)
  /-- A provider is tracked, if it was not. -/
  | touch (provider : String)

namespace TrackingStep

/-- Take a step. -/
def perform (world : World) : TrackingStep → World
  | shared step => step.perform world
  | record provider succeeded latency =>
    { world with engine := world.engine.onHealth (·.record provider succeeded latency) }
  | touch provider => { world with engine := world.engine.onHealth (·.touch provider) }

/-- The settings that a step puts in place of the old ones. -/
def selects? : TrackingStep → Option Selection
  | shared (.alone (.world (.aside (.select selection)))) => some selection
  | _ => none

/-- The settings after some steps: those that were put in place last. -/
def settingsAfter (first : Selection) (steps : List TrackingStep) : Selection :=
  (steps.filterMap selects?).getLast?.getD first

theorem settingsAfter_concat (first : Selection) (steps : List TrackingStep) (last : TrackingStep) :
    settingsAfter first (steps ++ [last]) = last.selects?.getD (settingsAfter first steps) := by
  rw [settingsAfter, settingsAfter, List.filterMap_append]
  cases chosen : last.selects? with
  | none => simp [chosen]
  | some selection => simp [chosen]

theorem tracks_perform (step : TrackingStep) (world : World) :
    world.engine.Tracks (step.perform world).engine step.selects? := by
  cases step with
  | record provider succeeded latency => exact .recorded provider succeeded latency rfl rfl
  | touch provider => exact .touched provider rfl rfl
  | shared step =>
    cases step with
    | pull own fetched => exact .kept rfl rfl
    | alone step =>
      cases step with
      | operate operation => exact .kept rfl rfl
      | world step =>
        cases step with
        | begin request limit =>
          have planned := world.engine.tracks_plan request
          change world.engine.Tracks (world.next (.begin request limit)).engine none
          cases made : world.engine.plan request with
          | mk engine result =>
            rw [made] at planned
            cases result with
            | error fault =>
              rw [World.next_begin_of_error made]
              exact planned
            | ok plan =>
              rw [World.next_begin_of_ok made]
              exact planned.of_same rfl rfl
        | advance index stopped => exact World.tracks_onRun (Run.tracks_advance stopped) index world
        | settle index ending => exact World.tracks_onRun (Run.tracks_settle ending) index world
        | aside aside =>
          cases aside with
          | select selection => exact .selected selection rfl rfl
          | plan request => exact world.engine.tracks_plan request
          | register _ | pass _ | bank _ _ | takeJournal => exact .kept rfl rfl

/-- The settings of an engine are those put in place last. -/
theorem selection_run (settings : EngineSettings) (clock : Clock) (steps : List TrackingStep) :
    (steps.foldl perform (.start settings clock)).engine.selection =
      settingsAfter settings.selection steps := by
  induction steps using List.reverseRecOn with
  | nil => rfl
  | append_singleton steps last ih =>
    rw [List.foldl_concat, (tracks_perform last _).selection_eq, ih, settingsAfter_concat]

theorem smooths_run (settings : EngineSettings) (clock : Clock) (steps : List TrackingStep) :
    (steps.foldl perform (.start settings clock)).engine.SmoothsBySettings := by
  induction steps using List.reverseRecOn with
  | nil => exact HealthTracker.smoothsBy_ofFactor settings.selection.factor
  | append_singleton steps last ih =>
    rw [List.foldl_concat]
    exact (tracks_perform last _).smooths ih

end TrackingStep

/-! ## Failover runs in one go -/

namespace Situation

variable {σ : Type} {caller : Caller σ} {now after : Situation σ}

/-- A run smooths by the settings if what goes on during its calls does. -/
theorem smooths_next (smooths : now.engine.SmoothsBySettings)
    (during : ∀ attempt state engine, engine.SmoothsBySettings →
      (caller.call attempt state engine).engine.SmoothsBySettings) :
    (now.next caller).engine.SmoothsBySettings := by
  cases here : now.run.place with
  | calling attempt lastResort started rest =>
    rw [next_of_calling here]
    exact (Run.tracks_settle _ _ now.run).smooths (during attempt now.state now.engine smooths)
  | examining _ | finished | dropped _ =>
    have advanced : now.next caller =
        let advanced := now.run.advance (caller.stopped now.state now.engine) now.engine
        ⟨advanced.1, now.state, advanced.2⟩ := by
      rw [next, here]
    rw [advanced]
    exact (Run.tracks_advance _ now.engine now.run).smooths smooths

theorem Leads.smooths (leads : Leads caller now after) (smooths : now.engine.SmoothsBySettings)
    (during : ∀ attempt state engine, engine.SmoothsBySettings →
      (caller.call attempt state engine).engine.SmoothsBySettings) :
    after.engine.SmoothsBySettings := by
  induction leads with
  | refl => exact smooths
  | tail _ step ih =>
    rw [step]
    exact smooths_next ih during

end Situation

theorem Engine.smooths_failover {σ : Type} {caller : Caller σ}
    (during : ∀ attempt state engine, Engine.SmoothsBySettings engine →
      (caller.call attempt state engine).engine.SmoothsBySettings)
    (request : PlanRequest) (limit : Nat) (state : σ) {engine : Engine}
    (smooths : engine.SmoothsBySettings) :
    (engine.failover caller request limit state).1.SmoothsBySettings := by
  have planned := (engine.tracks_plan request).smooths smooths
  cases made : engine.plan request with
  | mk drawn result =>
    rw [made] at planned
    cases result with
    | error fault =>
      rw [failover, made]
      exact planned
    | ok plan =>
      obtain ⟨last, ending, leads, -, result⟩ := Situation.leads_failover caller made limit state
      rw [result]
      exact leads.smooths planned during

/-- Every provider that is tracked, and every one to come, smooths by the factor of the settings put
in place last, brought into range, whatever the use of an engine was before: no matter whether a
provider was tracked before or after the settings were put in place.  That stays so through failover
runs with anything of the kind going on during their calls.  Replacing the settings changes the
factor and nothing else that is known of a provider. -/
theorem smoothing_law (settings : EngineSettings) (clock : Clock) (steps : List TrackingStep) :
    let engine := (steps.foldl TrackingStep.perform (.start settings clock)).engine
    let chosen := (TrackingStep.settingsAfter settings.selection steps).factor
    engine.selection.factor = chosen ∧
    Clamped chosen epsilon 1.0 (clampFactor chosen) ∧
    engine.health.factor = clampFactor chosen ∧
    (∀ provider stats, engine.health.get? provider = some stats →
      stats.factor = clampFactor chosen) ∧
    (∀ (σ : Type) (caller : Caller σ),
      (∀ attempt state engine, Engine.SmoothsBySettings engine →
        (caller.call attempt state engine).engine.SmoothsBySettings) →
      ∀ request limit state,
        (engine.failover caller request limit state).1.SmoothsBySettings) ∧
    ∀ selection,
      let changed := engine.setSelection selection
      changed.selection = selection ∧ changed.SmoothsBySettings ∧
      (∀ provider, changed.health.get? provider =
        (engine.health.get? provider).map fun stats =>
          { stats with factor := clampFactor selection.factor }) ∧
      changed.health.snapshots = engine.health.snapshots := by
  intro engine chosen
  have current : engine.selection.factor = chosen :=
    congrArg Selection.factor (TrackingStep.selection_run settings clock steps)
  have smooths : engine.SmoothsBySettings := TrackingStep.smooths_run settings clock steps
  refine ⟨current, clamped_clampFactor chosen, ?_, ?_, ?_, ?_⟩
  · rw [smooths.later, current]
  · intro provider stats found
    rw [smooths.tracked provider stats found, current]
  · intro σ caller during request limit state
    exact Engine.smooths_failover during request limit state smooths
  · intro selection changed
    exact ⟨rfl, HealthTracker.smoothsBy_setFactor selection.factor engine.health,
      engine.health.get?_setFactor selection.factor,
      engine.health.snapshots_setFactor selection.factor⟩

/-- An engine with a factor out of range, whose callers record outcomes on their own. -/
theorem smoothing_law_recording :
    let settings : EngineSettings :=
      { EngineSettings.standard with selection := { Selection.standard with factor := 2.0 } }
    let steps : List TrackingStep := [.touch "alpha", .record "beta" true (Duration.ofSeconds 1)]
    let engine := (steps.foldl TrackingStep.perform (.start settings .start)).engine
    let caller : Caller Unit := ⟨fun _ _ => false, fun _ state engine =>
      ⟨state, engine.onHealth (·.record "gamma" false (Duration.ofSeconds 1)), .succeeded "done"⟩⟩
    engine.health.factor = clampFactor 2.0 ∧
      (engine.failover caller (.forModel "model") 3 ()).1.SmoothsBySettings := by
  intro settings steps engine caller
  obtain ⟨-, -, tracker, -, runs, -⟩ := smoothing_law settings .start steps
  refine ⟨tracker, runs Unit caller (fun attempt state engine smooths => ?_) _ _ _⟩
  exact smooths.record "gamma" false (Duration.ofSeconds 1)

end ProviderRouting
