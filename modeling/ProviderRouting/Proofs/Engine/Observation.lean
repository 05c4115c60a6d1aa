import ProviderRouting.Proofs.Breaker.Reports
import ProviderRouting.Proofs.Engine.Interleaving

/-!
# What an engine's observers see

The journal and the metrics of an engine learn of its breakers only by what these report.  Whatever
is done with the engine, the changes of phase reported about a provider lead to the phase in which
its breaker is, and the metrics show that phase, count these changes and count the calls that were
rejected.
-/

namespace ProviderRouting

open Bank (phase_getOrFresh)

/-! ## Metrics -/

namespace ProviderMetrics

/-- What the counts show of a breaker, without the calls. -/
def watch (metrics : ProviderMetrics) : ProviderMetrics :=
  { metrics with calls := 0, successes := 0, failures := 0, latency := .latencies }

theorem watch_observe (notice : Notice) (metrics : ProviderMetrics) :
    (metrics.observe notice).watch = metrics.watch.observe notice := by
  cases notice with
  | rejected => rfl
  | changed transition =>
      obtain ⟨origin, target, wall⟩ := transition
      cases target <;> rfl

theorem watch_recordCall (succeeded : Bool) (latency : Duration) (metrics : ProviderMetrics) :
    (metrics.recordCall succeeded latency).watch = metrics.watch := rfl

/-- Count what breakers report. -/
def observeAll (notices : List Notice) (metrics : ProviderMetrics) : ProviderMetrics :=
  notices.foldl (fun metrics notice => metrics.observe notice) metrics

theorem watch_observeAll (notices : List Notice) (metrics : ProviderMetrics) :
    (metrics.observeAll notices).watch = metrics.watch.observeAll notices := by
  induction notices generalizing metrics with
  | nil => rfl
  | cons notice notices ih =>
      have first := watch_observe notice metrics
      have rest := ih (metrics.observe notice)
      rw [first] at rest
      exact rest

/-- The counts show a breaker in a phase that made some changes and rejected some calls. -/
structure Shows (metrics : ProviderMetrics) (changes : List Transition) (rejected : Nat)
    (phase : Phase) : Prop where
  gauge : metrics.phase = phase.gauge
  opened : metrics.opened = changes.countP (·.target = .opened)
  halfOpened : metrics.halfOpened = changes.countP (·.target = .halfOpen)
  closed : metrics.closed = changes.countP (·.target = .closed)
  rejections : metrics.rejections = rejected

theorem Shows.observe {metrics : ProviderMetrics} {changes : List Transition} {rejected : Nat}
    {phase : Phase} (shows_ : metrics.Shows changes rejected phase) (change : Transition) :
    (metrics.observe (.changed change)).Shows (changes ++ [change]) rejected change.target := by
  obtain ⟨gauge, opened, halfOpened, closed, rejections⟩ := shows_
  obtain ⟨origin, target, wall⟩ := change
  cases target <;>
    exact ⟨rfl, by simp [ProviderMetrics.observe, opened],
      by simp [ProviderMetrics.observe, halfOpened], by simp [ProviderMetrics.observe, closed],
      rejections⟩

theorem Shows.undergo {metrics : ProviderMetrics} {changes : List Transition} {rejected : Nat}
    {breaker : Breaker} (shows_ : metrics.Shows changes rejected breaker.phase)
    (operation : Option Breaker.Operation) (moment : Moment) :
    (metrics.observeAll (breaker.undergo operation moment).notices).Shows
      (changes ++ (breaker.undergo operation moment).told)
      (rejected + Breaker.denials operation (breaker.undergo operation moment))
      (breaker.undergo operation moment).breaker.phase := by
  rw [← Breaker.count_undergo]
  cases operation with
  | none =>
      rw [Breaker.undergo_none, Breaker.Outcome.told]
      exact (List.append_nil changes).symm ▸ shows_
  | some operation =>
      rw [Breaker.undergo_some, Breaker.Outcome.told]
      cases breaker.tells_apply operation moment with
      | nothing phase told granted =>
          rw [told, phase]
          exact (List.append_nil changes).symm ▸ shows_
      | rejection phase told denied =>
          rw [told, phase]
          refine (List.append_nil changes).symm ▸ ⟨shows_.gauge, shows_.opened, shows_.halfOpened,
            shows_.closed, ?_⟩
          exact congrArg (· + 1) shows_.rejections
      | change target wall phase told edge granted =>
          rw [told, phase]
          exact shows_.observe ⟨breaker.phase, target, wall⟩

end ProviderMetrics

/-- What is reported about a provider counts for it, and nothing else does. -/
theorem Metrics.provider_observeAll (name : String) (events : List Event) (metrics : Metrics) :
    (metrics.observeAll events).provider name =
      (metrics.provider name).observeAll
        ((events.filter (·.provider = name)).map (·.notice)) := by
  induction events generalizing metrics with
  | nil => rfl
  | cons event events ih =>
      have rest := ih (metrics.observe event)
      rw [Metrics.observe, provider_update] at rest
      refine rest.trans ?_
      by_cases same : event.provider = name
      · simp [same, ProviderMetrics.observeAll]
      · simp [same]

/-- Whether an operation resets breakers. -/
def BankOperation.IsReset : BankOperation → Prop
  | .reset _ | .resetAll => True
  | .allow _ | .record _ _ | .bypass _ _ | .adopt _ _ => False
  | .setDefault _ | .setProvider _ _ | .snapshot _ | .snapshots => False

/-! ## Engines -/

namespace Engine

variable {engine after : Engine} {operation : Option BankOperation}

/-- What an operation on the breakers would leave, if there is one. -/
def doing (operation : Option BankOperation) (engine : Engine) : Bank.Outcome :=
  match operation with
  | some operation => engine.bank.apply operation engine.clock.moment
  | none => engine.bank.quiet

/-- At most one thing is done with the breakers, and the journal and the metrics learn of it. -/
structure Does (operation : Option BankOperation) (engine after : Engine) : Prop where
  bank : after.bank = (engine.doing operation).bank
  news : after.journal.drop engine.journal.length = (engine.doing operation).events
  metrics : ∀ name, (after.metrics.provider name).watch =
    (engine.metrics.provider name).watch.observeAll
      (((engine.doing operation).events.filter (·.provider = name)).map (·.notice))

theorem does_self (engine : Engine) : engine.Does none engine :=
  ⟨rfl, List.drop_length, fun _ => rfl⟩

theorem does_onBank (operation : BankOperation) (engine : Engine) :
    engine.Does (some operation) (engine.onBank operation).1 := by
  refine ⟨rfl, List.drop_left, fun name => ?_⟩
  have counted := engine.metrics.provider_observeAll name (engine.doing (some operation)).events
  exact (congrArg ProviderMetrics.watch counted).trans (ProviderMetrics.watch_observeAll _ _)

theorem Does.count (does : engine.Does operation after) (counter : Counter) :
    engine.Does operation (after.count counter) :=
  ⟨does.bank, does.news, does.metrics⟩

theorem Does.of_count {counter : Counter} (does : (engine.count counter).Does operation after) :
    engine.Does operation after :=
  ⟨does.bank, does.news, does.metrics⟩

theorem does_recordOutcome (provider : String) (succeeded : Bool) (latency : Duration)
    (lastResort : Bool) (engine : Engine) :
    engine.Does
      (some (if lastResort then .bypass provider succeeded else .record provider succeeded))
      (engine.recordOutcome provider succeeded latency lastResort) := by
  have does := engine.does_onBank
    (if lastResort then .bypass provider succeeded else .record provider succeeded)
  refine ⟨does.bank, does.news, fun name => ?_⟩
  rw [← does.metrics name, recordOutcome, onMetrics, Metrics.recordCall, Metrics.provider_update]
  split
  · rename_i same
    subst same
    exact ProviderMetrics.watch_recordCall _ _ _
  · rfl

theorem does_plan (request : PlanRequest) (engine : Engine) :
    engine.Does none (engine.plan request).1 := by
  unfold plan
  split
  · exact engine.does_self.count .plans
  · exact engine.does_self.count .planFailures

/-- Whether what is done is a call to a provider that is rejected, as a number. -/
def denies (operation : Option BankOperation) (name : String) (engine : Engine) : Nat :=
  Breaker.denials (operation.bind (·.on name))
    ((engine.bank.getOrFresh name).undergo (operation.bind (·.on name)) engine.clock.moment)

theorem denies_of_ne {operation : BankOperation} {name : String}
    (other : operation ≠ .allow name) (engine : Engine) :
    engine.denies (some operation) name = 0 :=
  if_neg (mt BankOperation.on_eq_allow_iff.mp other)

theorem denies_allow (provider name : String) (engine : Engine) :
    engine.denies (some (.allow provider)) name =
      if provider = name then (!(engine.onBank (.allow provider)).2).toNat else 0 := by
  by_cases same : provider = name
  · subst same
    have asked : (engine.onBank (.allow provider)).2 = _ :=
      (Bank.apply_of_provider rfl engine.clock.moment engine.bank).1
    rw [if_pos rfl, asked, denies, Option.bind_some, Breaker.denials]
    exact if_pos (if_pos rfl)
  · rw [if_neg same]
    exact denies_of_ne (by simp [same]) engine

end Engine

/-! ## Runs -/

namespace Run

/-- How many attempts on a provider were rejected. -/
def denials (name : String) (run : Run) : Nat :=
  run.asks.countP fun ask => ask.1.provider = name && !ask.2

/-- A step of a run does at most one thing with the breakers, never a reset, and the run keeps
account of rejections. -/
def Does (engine : Engine) (run : Run) (after : Engine × Run) : Prop :=
  ∃ operation : Option BankOperation, engine.Does operation after.1 ∧
    (∀ name, after.2.denials name = run.denials name + engine.denies operation name) ∧
    ∀ done, operation = some done → ¬done.IsReset

variable {engine : Engine} {run : Run}

theorem does_idle {after : Engine} {next : Run} (does : engine.Does none after)
    (asks : next.asks = run.asks) : run.Does engine (after, next) := by
  refine ⟨none, does, fun name => ?_, nofun⟩
  rw [denials, asks]
  rfl

theorem does_close (report : RunReport) {after : Engine} {operation : Option BankOperation}
    (does : engine.Does operation after) :
    engine.Does operation (RunProgress.close (⟨after, (), report⟩ : RunProgress Unit)) := by
  unfold RunProgress.close
  split
  · exact does.count .cancellations
  · split
    · exact does.count .runSuccesses
    · exact does

theorem does_ask {attempt : Attempt} {asked : Engine} {granted : Bool}
    (answer : (run.enter engine).onBank (.allow attempt.provider) = (asked, granted)) {next : Run}
    (asks : next.asks = run.asks ++ [(attempt, granted)]) : run.Does engine (asked, next) := by
  have does : engine.Does (some (.allow attempt.provider)) asked := by
    have entered := (run.enter engine).does_onBank (.allow attempt.provider)
    rw [answer] at entered
    unfold enter at entered
    split at entered
    · exact entered
    · exact entered.of_count
  have granted_eq : (engine.onBank (.allow attempt.provider)).2 = granted := by
    have same : ((run.enter engine).onBank (.allow attempt.provider)).2 =
        (engine.onBank (.allow attempt.provider)).2 := by
      unfold enter
      split <;> rfl
    rw [← same, answer]
  refine ⟨_, does, fun name => ?_, fun done same => Option.some.inj same ▸ id⟩
  rw [Engine.denies_allow, granted_eq, denials, denials, asks, List.countP_append,
    List.countP_singleton]
  by_cases same : attempt.provider = name <;> cases granted <;> simp [same]

theorem does_advance (stopped : Bool) (engine : Engine) (run : Run) :
    run.Does engine (run.advance stopped engine) := by
  refine advance_cases stopped engine run ?_ ?_ ?_ ?_ ?_ ?_
  · exact fun _ => does_idle engine.does_self rfl
  · exact fun _ _ _ => does_idle (does_close _ engine.does_self) (stop_asks engine run)
  · exact fun attempt rest asked _ answer => does_ask answer (asked_asks attempt false run)
  · intro attempt rest asked _ answer
    refine does_ask answer ?_
    exact (dial_asks attempt false rest asked _).trans (asked_asks attempt true run)
  · intro best others _ _ _
    exact does_idle (engine.does_self.count .lastResorts) (dial_asks best true [] _ run)
  · exact fun _ _ => does_idle (does_close _ engine.does_self) rfl

theorem does_settled {attempt : Attempt} {succeeded lastResort : Bool} {after : Engine} {next : Run}
    (does : engine.Does
      (some (if lastResort then .bypass attempt.provider succeeded
        else .record attempt.provider succeeded)) after)
    (asks : next.asks = run.asks) : run.Does engine (after, next) := by
  refine ⟨_, does, fun name => ?_, fun done same => ?_⟩
  · rw [Engine.denies_of_ne, denials, asks]
    · rfl
    · cases lastResort <;> exact nofun
  · cases lastResort <;> exact Option.some.inj same ▸ id

theorem does_settle (ending : CallEnd) (engine : Engine) (run : Run) :
    run.Does engine (run.settle ending engine) := by
  refine settle_cases ending engine run ?_ ?_ ?_ ?_ ?_
  · exact does_idle engine.does_self rfl
  · intro attempt lastResort started rest response latency _ _
    exact does_settled (does_close _ (engine.does_recordOutcome _ _ _ _)) (ended_asks ending run)
  · intro attempt lastResort started rest error latency _ _
    exact does_settled (engine.does_recordOutcome _ _ _ _) (ended_asks ending run)
  · intro attempt lastResort started rest latency _ _
    exact does_settled (does_close _ (engine.does_recordOutcome _ _ _ _)) (ended_asks ending run)
  · intro attempt lastResort started rest latency _ _
    exact does_settled ((engine.does_recordOutcome _ _ _ _).count .cancellations)
      (ended_asks ending run)

end Run

/-! ## Worlds -/

namespace World

variable {world : World}

/-- A step does at most one thing with the breakers, never a reset, and the runs keep account of
rejections. -/
def Does (world after : World) : Prop :=
  ∃ operation : Option BankOperation, world.engine.Does operation after.engine ∧
    (∀ name, after.total (·.denials name) =
      world.total (·.denials name) + world.engine.denies operation name) ∧
    ∀ done, operation = some done → ¬done.IsReset

theorem does_idle {after : World} (does : world.engine.Does none after.engine)
    (runs : ∀ name, after.total (·.denials name) = world.total (·.denials name)) :
    world.Does after :=
  ⟨none, does, runs, nofun⟩

theorem does_onRun {step : Engine → Run → Engine × Run}
    (does : ∀ engine run, Run.Does engine run (step engine run)) (index : Nat) (world : World) :
    world.Does (world.onRun index step) := by
  cases found : world.runs[index]? with
  | none =>
      rw [onRun, found]
      exact does_idle world.engine.does_self fun _ => rfl
  | some run =>
      obtain ⟨operation, done, denials, unreset⟩ := does world.engine run
      rw [onRun_of_some found]
      refine ⟨operation, done, fun name => ?_, unreset⟩
      have before := sum_eraseIdx (·.denials name) world.runs index found
      have after := sum_set (·.denials name) (step world.engine run).2 found
      have changed := denials name
      simp only [total] at *
      omega

theorem does_aside (aside : Aside) (world : World) : world.Does (world.next (.aside aside)) := by
  have same : ∀ name, (world.next (.aside aside)).total (·.denials name) =
      world.total (·.denials name) := fun _ => rfl
  cases aside with
  | register change => exact does_idle ⟨rfl, List.drop_length, fun _ => rfl⟩ same
  | plan request => exact does_idle (world.engine.does_plan request) same
  | pass duration => exact does_idle ⟨rfl, List.drop_length, fun _ => rfl⟩ same
  | select selection => exact does_idle ⟨rfl, List.drop_length, fun _ => rfl⟩ same
  | bank operation nothing =>
      refine ⟨some operation, world.engine.does_onBank operation, fun name => ?_,
        fun done here => ?_⟩
      · rw [same, Engine.denies_of_ne]
        · rfl
        · rintro rfl
          exact nothing
      · obtain rfl := Option.some.inj here
        cases operation with
        | reset _ | resetAll => exact absurd nothing id
        | allow _ | record _ _ | bypass _ _ | adopt _ _ => exact id
        | setDefault _ | setProvider _ _ | snapshot _ | snapshots => exact id
  | takeJournal => exact does_idle ⟨rfl, List.drop_nil, fun _ => rfl⟩ same

theorem does_next (step : WorldStep) (world : World) : world.Does (world.next step) := by
  cases step with
  | begin request limit =>
      have planned := world.engine.does_plan request
      cases made : world.engine.plan request with
      | mk engine result =>
          rw [made] at planned
          cases result with
          | error fault =>
              rw [next_begin_of_error made]
              exact does_idle planned fun _ => rfl
          | ok plan =>
              rw [next_begin_of_ok made]
              refine does_idle (planned.count .runs) fun name => ?_
              simp [total, Run.begin, Run.denials, Run.asks]
  | advance index stopped => exact does_onRun (Run.does_advance stopped) index world
  | settle index ending => exact does_onRun (Run.does_settle ending) index world
  | aside aside => exact does_aside aside world

end World

/-! ## Sessions -/

/-- A step in the use of an engine. -/
inductive SessionStep where
  /-- Something is done with the engine, or a run takes a step. -/
  | world (step : WorldStep)
  /-- An operation on the breakers is carried out. -/
  | operate (operation : BankOperation)

/-- Whether a step resets the breaker of a provider. -/
def SessionStep.Resets (name : String) (step : SessionStep) : Prop :=
  step = .operate (.reset name) ∨ step = .operate .resetAll

/-- An engine in use, with what an onlooker has seen. -/
structure Session where
  world : World
  /-- What was added to the journal, with the step that added it. -/
  told : List (SessionStep × Event)
  /-- The calls that asked a breaker outside of runs, with the answers. -/
  asked : List (String × Bool)

namespace Session

/-- The world after a step. -/
def after (world : World) : SessionStep → World
  | .world step => world.next step
  | .operate operation => { world with engine := (world.engine.onBank operation).1 }

/-- The answer to a call outside of runs. -/
def answer (engine : Engine) : SessionStep → List (String × Bool)
  | .operate (.allow provider) => [(provider, (engine.onBank (.allow provider)).2)]
  | _ => []

/-- Take one step. -/
def next (session : Session) (step : SessionStep) : Session where
  world := after session.world step
  told := session.told ++
    ((after session.world step).engine.journal.drop session.world.engine.journal.length).map
      (step, ·)
  asked := session.asked ++ answer session.world.engine step

/-- The use of a fresh engine through some steps. -/
def run (settings : EngineSettings) (clock : Clock) (steps : List SessionStep) : Session :=
  steps.foldl next ⟨.start settings clock, [], []⟩

/-- The changes of phase that were reported about a provider, with the steps that made them. -/
def changes (name : String) (session : Session) : List (SessionStep × Transition) :=
  session.told.filterMap fun told =>
    if told.2.provider = name then told.2.notice.transition?.map (told.1, ·) else none

/-- How many calls to a provider were rejected. -/
def denials (name : String) (session : Session) : Nat :=
  session.asked.count (name, false) + session.world.total (·.denials name)

variable {session : Session} {step : SessionStep}

theorem count_answer (operation : BankOperation) (name : String) (engine : Engine) :
    (answer engine (.operate operation)).count (name, false) =
      engine.denies (some operation) name := by
  cases operation with
  | allow provider =>
      rw [Engine.denies_allow, answer, List.count_singleton]
      by_cases same : provider = name
      · cases (engine.onBank (.allow provider)).2 <;> simp [same]
      · simp [same]
  | record _ _ | bypass _ _ | reset _ | resetAll | adopt _ _ | setDefault _ | setProvider _ _
    | snapshot _ | snapshots =>
      rw [Engine.denies_of_ne]
      · rfl
      · exact nofun

theorem does_next (step : SessionStep) (session : Session) :
    ∃ operation : Option BankOperation,
      session.world.engine.Does operation (session.next step).world.engine ∧
      (∀ name, (session.next step).denials name =
        session.denials name + session.world.engine.denies operation name) ∧
      ∀ name, operation.bind (·.on name) = some .reset → step.Resets name := by
  cases step with
  | world step =>
      obtain ⟨operation, does, denials, unreset⟩ := session.world.does_next step
      refine ⟨operation, does, fun name => ?_, fun name reset => ?_⟩
      · have changed := denials name
        simp only [Session.denials, next, answer, after, List.append_nil] at changed ⊢
        omega
      · cases operation with
        | none => exact absurd reset nofun
        | some done =>
            rcases BankOperation.on_eq_reset_iff.mp reset with rfl | rfl <;>
              exact absurd trivial (unreset _ rfl)
  | operate operation =>
      refine ⟨some operation, session.world.engine.does_onBank operation, fun name => ?_,
        fun name reset => ?_⟩
      · have runs : (session.next (.operate operation)).world.total (·.denials name) =
            session.world.total (·.denials name) := rfl
        have asked : (session.next (.operate operation)).asked =
            session.asked ++ answer session.world.engine (.operate operation) := rfl
        rw [Session.denials, Session.denials, runs, asked, List.count_append, count_answer]
        omega
      · rcases BankOperation.on_eq_reset_iff.mp reset with rfl | rfl
        · exact .inl rfl
        · exact .inr rfl

/-! ## What the onlooker has seen -/

theorem changes_append (name : String) (told : List (SessionStep × Event)) (events : List Event)
    (step : SessionStep) (world : World) (asked : List (String × Bool)) :
    changes name ⟨world, told ++ events.map (step, ·), asked⟩ =
      changes name ⟨world, told, asked⟩ ++
        (((events.filter (·.provider = name)).map (·.notice)).filterMap
          (·.transition?)).map (step, ·) := by
  rw [changes, List.filterMap_append]
  congr 1
  induction events with
  | nil => rfl
  | cons event events ih =>
      by_cases same : event.provider = name
      · cases change : event.notice.transition? <;> simp_all
      · simp_all

/-- What was reported about a provider leads to the phase of its breaker, and the metrics show
that. -/
structure Sight (name : String) (session : Session) : Prop where
  governed : session.world.engine.bank.Governed
  path : Path (·.Resets name) .closed (session.changes name)
    (session.world.engine.bank.getOrFresh name).phase
  counts : (session.world.engine.metrics.provider name).watch.Shows
    ((session.changes name).map (·.2)) (session.denials name)
    (session.world.engine.bank.getOrFresh name).phase

/-- What is done with the breakers of an engine, one breaker at a time. -/
theorem doing_eq {engine : Engine} (governed : engine.bank.Governed)
    (operation : Option BankOperation) (name : String) :
    let undergone :=
      (engine.bank.getOrFresh name).undergo (operation.bind (·.on name)) engine.clock.moment
    ((engine.doing operation).events.filter (·.provider = name)).map (·.notice) =
        undergone.notices ∧
      ((engine.doing operation).bank.getOrFresh name).phase = undergone.breaker.phase ∧
      (engine.doing operation).bank.Governed := by
  cases operation with
  | none => exact ⟨rfl, rfl, governed⟩
  | some operation =>
      have told := Bank.filter_events operation engine.clock.moment engine.bank name
      have becomes := Bank.getOrFresh_apply governed operation engine.clock.moment name
      have phase := congrArg Breaker.phase becomes
      refine ⟨?_, phase, Bank.governed_apply governed _ _⟩
      rw [Engine.doing, told, List.map_map]
      exact List.map_id _

theorem Sight.next {name : String} (sight : session.Sight name) (step : SessionStep) :
    (session.next step).Sight name := by
  obtain ⟨operation, does, denials, reset⟩ := session.does_next step
  let moment := session.world.engine.clock.moment
  let breaker := session.world.engine.bank.getOrFresh name
  let undergone := breaker.undergo (operation.bind (·.on name)) moment
  obtain ⟨told, phase, governed⟩ := doing_eq sight.governed operation name
  rw [← does.bank] at phase governed
  have changes : (session.next step).changes name =
      session.changes name ++ undergone.told.map (step, ·) := by
    have appended := changes_append name session.told
      (session.world.engine.doing operation).events step (session.next step).world
      (session.next step).asked
    rw [told, ← does.news] at appended
    exact appended
  have counts : (session.next step).world.engine.metrics.provider name |>.watch |>.Shows
      ((session.changes name).map (·.2) ++ undergone.told)
      (session.denials name + session.world.engine.denies operation name)
      undergone.breaker.phase := by
    rw [does.metrics, told]
    exact sight.counts.undergo _ moment
  constructor
  · exact governed
  · rw [changes, phase]
    exact sight.path.append (Breaker.path_undergo step (reset name))
  · rw [changes, phase, denials, List.map_append, List.map_map]
    simpa only [Function.comp_def, List.map_id'] using counts

theorem governed_bank (settings : EngineSettings) : settings.bank.Governed := by
  have kept (overrides : List (String × Thresholds)) : ∀ bank : Bank, bank.Governed →
      (overrides.foldl (fun bank entry => bank.setProvider entry.1 entry.2) bank).Governed := by
    induction overrides with
    | nil => exact fun _ governed => governed
    | cons entry overrides ih =>
        exact fun bank governed =>
          ih _ (Bank.governed_apply governed (.setProvider entry.1 entry.2) default)
  exact kept settings.overrides _ (Bank.governed_ofDefaults _)

theorem sight_run (settings : EngineSettings) (clock : Clock) (steps : List SessionStep)
    (name : String) : (run settings clock steps).Sight name := by
  induction steps using List.reverseRecOn with
  | nil =>
      have fresh : settings.bank.getOrFresh name = .fresh (settings.bank.thresholdsFor name) :=
        Bank.getOrFresh_of_none (settings.get?_bank name)
      have closed : (settings.bank.getOrFresh name).phase = .closed := by rw [fresh]; rfl
      refine ⟨governed_bank settings, closed.symm, ?_⟩
      change ProviderMetrics.fresh.watch.Shows [] 0 (settings.bank.getOrFresh name).phase
      rw [closed]
      exact ⟨rfl, rfl, rfl, rfl, rfl⟩
  | append_singleton steps step ih =>
      rw [run, List.foldl_append]
      exact ih.next step

theorem openBreakers_eq (metrics : Metrics) :
    metrics.openBreakers = metrics.providers.values.countP (·.phase == Phase.opened.gauge) := by
  rw [Metrics.openBreakers, Metrics.summaries, Table.values, List.countP_map, List.countP_map]
  rfl

theorem gauge_eq_iff (phase : Phase) : phase.gauge = Phase.opened.gauge ↔ phase = .opened := by
  cases phase <;> decide

/-- The open breakers in the metrics are those of the bank, if the gauges are right. -/
theorem openBreakers_of_gauges {metrics : Metrics} {bank : Bank}
    (gauges : ∀ name, (metrics.provider name).phase = (bank.phase name).gauge) :
    metrics.openBreakers = bank.breakers.values.countP (·.phase = .opened) := by
  rw [openBreakers_eq]
  refine Table.countP_values fun name => ?_
  have shown : (metrics.providers.get? name).any (·.phase == Phase.opened.gauge) =
      decide ((metrics.provider name).phase = Phase.opened.gauge) := by
    rw [Metrics.provider]
    cases metrics.providers.get? name <;> rfl
  have held : (bank.breakers.get? name).any (fun breaker => breaker.phase = .opened) =
      decide (bank.phase name = .opened) := by
    rw [Bank.phase, Bank.get?]
    cases bank.breakers.get? name <;> rfl
  rw [shown, held, gauges]
  exact decide_eq_decide.mpr (gauge_eq_iff _)

/-- Whatever is done with an engine, the changes of phase reported about a provider form a path
from closed to the phase of its breaker, on which only a reset leads from open to closed at once.
The metrics show that phase and count these changes and the calls that were rejected, and the
number of open breakers is that of the bank. -/
theorem observation_law (settings : EngineSettings) (clock : Clock) (steps : List SessionStep) :
    let session := run settings clock steps
    let engine := session.world.engine
    (∀ name,
      let counts := engine.metrics.provider name
      let changes := (session.changes name).map (·.2)
      Path (·.Resets name) .closed (session.changes name) (engine.bank.phase name) ∧
      counts.phase = (engine.bank.phase name).gauge ∧
      counts.opened = changes.countP (·.target = .opened) ∧
      counts.halfOpened = changes.countP (·.target = .halfOpen) ∧
      counts.closed = changes.countP (·.target = .closed) ∧
      counts.rejections = session.denials name) ∧
    engine.metrics.openBreakers = engine.bank.breakers.values.countP (·.phase = .opened) := by
  intro session engine
  have sight (name : String) : session.Sight name := sight_run settings clock steps name
  refine ⟨fun name => ?_, openBreakers_of_gauges fun name => ?_⟩
  · have path := (sight name).path
    have counts := (sight name).counts
    rw [phase_getOrFresh] at path counts
    exact ⟨path, counts.gauge, counts.opened, counts.halfOpened, counts.closed,
      counts.rejections⟩
  · have gauge := (sight name).counts.gauge
    rw [phase_getOrFresh] at gauge
    exact gauge

end Session

end ProviderRouting
