import Mathlib.Algebra.Ring.Nat
import ProviderRouting.Proofs.Engine.RunAccounts

/-!
# Interleaved runs

Any number of failover runs share an engine.  A run gives way to others after every attempt and
while a call of its is in flight, and what else an engine does comes in between: models are
registered, requests planned, settings changed, and time passes.  However the steps of all of them
follow one another, the stores of the engine and its totals count what the runs did.
-/

namespace ProviderRouting

/-- What is done with an engine besides making runs.  No breaker is asked or reset, and no outcome
recorded. -/
inductive Aside where
  /-- The known models change. -/
  | register (change : Registry → Registry)
  /-- A request is planned. -/
  | plan (request : PlanRequest)
  /-- Time passes. -/
  | pass (duration : Duration)
  /-- The selection settings are replaced. -/
  | select (selection : Selection)
  /-- Something is done with the breakers that counts nothing. -/
  | bank (operation : BankOperation) (nothing : operation.CountsNothing)
  /-- The journal is taken. -/
  | takeJournal

/-- The engine after something was done with it. -/
def Aside.perform (engine : Engine) : Aside → Engine
  | register change => engine.onRegistry change
  | plan request => (engine.plan request).1
  | pass duration => engine.advance duration
  | select selection => engine.setSelection selection
  | bank operation _ => (engine.onBank operation).1
  | takeJournal => engine.takeJournal.1

/-- An engine with the runs begun on it. -/
structure World where
  /-- The engine. -/
  engine : Engine
  /-- The runs, in the order in which they began. -/
  runs : List Run

/-- One step of a world. -/
inductive WorldStep where
  /-- A request is planned and a run of the plan begins. -/
  | begin (request : PlanRequest) (limit : Nat)
  /-- A run takes its next attempt, or notices that it was told to stop. -/
  | advance (index : Nat) (stopped : Bool)
  /-- The call in flight of a run comes to an end. -/
  | settle (index : Nat) (ending : CallEnd)
  /-- Something else happens. -/
  | aside (aside : Aside)

namespace World

/-- A world without runs. -/
def start (settings : EngineSettings) (clock : Clock) : World := ⟨settings.build clock, []⟩

/-- Let a run take a step, if there is such a run. -/
def onRun (index : Nat) (step : Engine → Run → Engine × Run) (world : World) : World :=
  match world.runs[index]? with
  | some run =>
    let (engine, run) := step world.engine run
    ⟨engine, world.runs.set index run⟩
  | none => world

/-- Take one step. -/
def next (world : World) : WorldStep → World
  | .begin request limit =>
    match world.engine.plan request with
    | (engine, .ok plan) =>
      let (engine, run) := Run.begin request.model plan limit engine
      ⟨engine, world.runs ++ [run]⟩
    | (engine, .error _) => { world with engine := engine }
  | .advance index stopped => world.onRun index (Run.advance stopped)
  | .settle index ending => world.onRun index (Run.settle ending)
  | .aside aside => { world with engine := aside.perform world.engine }

/-- The world after some steps on a fresh engine. -/
def run (settings : EngineSettings) (clock : Clock) (steps : List WorldStep) : World :=
  steps.foldl next (start settings clock)

/-- The sum of an amount over all runs. -/
def total (amount : Run → Nat) (world : World) : Nat := (world.runs.map amount).sum

/-- The engine has counted what the runs did, each run having kept its records. -/
structure Kept (world : World) : Prop where
  /-- The records of every run fit. -/
  standing : ∀ run ∈ world.runs, run.Standing
  /-- The calls of every run are those that ended and the one in flight. -/
  counted : ∀ run ∈ world.runs, ∀ provider, run.Counted provider
  /-- The stores have counted the calls and the skipped attempts. -/
  booked : ∀ provider, world.engine.books provider =
    .balanced (world.total (·.successesOf provider)) (world.total (·.failuresOf provider))
      (world.total (·.skipsOf provider))
  /-- The totals have counted the runs. -/
  totalled : ∀ counter, counter ≠ .plans → counter ≠ .planFailures →
    world.engine.metrics.totals.get counter = world.total (·.share counter)

/-! ## Sums over runs -/

theorem sum_eraseIdx (amount : Run → Nat) {run : Run} (runs : List Run) :
    ∀ index : Nat, runs[index]? = some run →
      (runs.map amount).sum = ((runs.eraseIdx index).map amount).sum + amount run := by
  induction runs with
  | nil => exact fun index found => absurd found nofun
  | cons first runs ih =>
      intro index found
      cases index with
      | zero =>
          obtain rfl : first = run := by simpa using found
          rw [List.eraseIdx_cons_zero, List.map_cons, List.sum_cons, Nat.add_comm]
      | succ index =>
          have later := ih index (by simpa using found)
          rw [List.eraseIdx_cons_succ, List.map_cons, List.sum_cons, List.map_cons, List.sum_cons,
            later, Nat.add_assoc]

theorem sum_set (amount : Run → Nat) {run : Run} (after : Run) {runs : List Run} {index : Nat}
    (found : runs[index]? = some run) :
    ((runs.set index after).map amount).sum =
      ((runs.eraseIdx index).map amount).sum + amount after := by
  have bound : index < runs.length := (List.getElem?_eq_some_iff.1 found).1
  have there : (runs.set index after)[index]? = some after := by
    rw [List.getElem?_set_self bound]
  rw [sum_eraseIdx amount _ index there, List.eraseIdx_set_eq]

/-! ## What a step keeps -/

/-- A step of a run that keeps the records of the run and what the engine owes to it. -/
structure Faithful (step : Engine → Run → Engine × Run) : Prop where
  /-- The records still fit. -/
  standing {engine : Engine} {run : Run} : run.Standing → (step engine run).2.Standing
  /-- The calls are still those that ended and the one in flight. -/
  counted {engine : Engine} {run : Run} {provider : String} :
    run.Counted provider → (step engine run).2.Counted provider
  /-- The stores still have counted what the run did. -/
  booked {engine : Engine} {run : Run} {provider : String} {successes failures skips : Nat} :
    run.Booked provider successes failures skips engine →
      (step engine run).2.Booked provider successes failures skips (step engine run).1
  /-- The totals still have counted what the run did. -/
  totalled {engine : Engine} {run : Run} {counter : Counter} {others : Nat} : run.Standing →
    run.Totalled counter others engine →
      (step engine run).2.Totalled counter others (step engine run).1

theorem faithful_advance (stopped : Bool) : Faithful (Run.advance stopped) where
  standing standing := Run.standing_advance standing stopped
  counted counted := counted.advance stopped _
  booked booked := booked.advance stopped
  totalled standing totalled := totalled.advance standing stopped

theorem faithful_settle (ending : CallEnd) : Faithful (Run.settle ending) where
  standing standing := Run.standing_settle standing ending
  counted counted := counted.settle ending _
  booked booked := booked.settle ending
  totalled standing totalled := totalled.settle standing ending

variable {world : World}

theorem onRun_of_some {step : Engine → Run → Engine × Run} {index : Nat} {run : Run}
    (found : world.runs[index]? = some run) :
    world.onRun index step =
      ⟨(step world.engine run).1, world.runs.set index (step world.engine run).2⟩ := by
  rw [onRun, found]

theorem Kept.onRun {step : Engine → Run → Engine × Run} (kept : world.Kept)
    (faithful : Faithful step) (index : Nat) : (world.onRun index step).Kept := by
  cases found : world.runs[index]? with
  | none =>
      rw [World.onRun, found]
      exact kept
  | some run =>
      rw [onRun_of_some found]
      have member : run ∈ world.runs := List.mem_of_getElem? found
      let others (amount : Run → Nat) : Nat := ((world.runs.eraseIdx index).map amount).sum
      have before (amount : Run → Nat) : world.total amount = others amount + amount run :=
        sum_eraseIdx amount world.runs index found
      have after (amount : Run → Nat) (engine : Engine) (next : Run) :
          total amount ⟨engine, world.runs.set index next⟩ = others amount + amount next :=
        sum_set amount next found
      constructor
      · intro other among
        rcases List.mem_or_eq_of_mem_set among with earlier | rfl
        · exact kept.standing other earlier
        · exact faithful.standing (kept.standing run member)
      · intro other among provider
        rcases List.mem_or_eq_of_mem_set among with earlier | rfl
        · exact kept.counted other earlier provider
        · exact faithful.counted (kept.counted run member provider)
      · intro provider
        have booked := kept.booked provider
        rw [before, before, before] at booked
        rw [after, after, after]
        exact faithful.booked booked
      · intro counter notPlans notFailures
        have totalled := kept.totalled counter notPlans notFailures
        rw [before] at totalled
        rw [after]
        exact faithful.totalled (kept.standing run member) totalled

/-- What happens to the engine between the steps of runs changes nothing that is owed to them. -/
theorem Kept.of_engine {engine : Engine} (kept : world.Kept)
    (books : ∀ provider, engine.books provider = world.engine.books provider)
    (totals : ∀ counter, counter ≠ .plans → counter ≠ .planFailures →
      engine.metrics.totals.get counter = world.engine.metrics.totals.get counter) :
    Kept { world with engine := engine } where
  standing := kept.standing
  counted := kept.counted
  booked provider := (books provider).trans (kept.booked provider)
  totalled counter notPlans notFailures :=
    (totals counter notPlans notFailures).trans (kept.totalled counter notPlans notFailures)

theorem totals_plan (request : PlanRequest) (engine : Engine) {counter : Counter}
    (notPlans : counter ≠ .plans) (notFailures : counter ≠ .planFailures) :
    (engine.plan request).1.metrics.totals.get counter = engine.metrics.totals.get counter := by
  unfold Engine.plan
  split
  · rw [Engine.totals_count, if_neg (Ne.symm notPlans), Nat.add_zero]
  · rw [Engine.totals_count, if_neg (Ne.symm notFailures), Nat.add_zero]

theorem Kept.plan (kept : world.Kept) (request : PlanRequest) :
    Kept { world with engine := (world.engine.plan request).1 } :=
  kept.of_engine (fun provider => Engine.books_plan request provider world.engine)
    fun _ notPlans notFailures => totals_plan request world.engine notPlans notFailures

theorem Kept.aside (kept : world.Kept) (aside : Aside) : (world.next (.aside aside)).Kept := by
  cases aside with
  | register change => exact kept.of_engine (fun _ => rfl) fun _ _ _ => rfl
  | plan request => exact kept.plan request
  | pass duration => exact kept.of_engine (fun _ => rfl) fun _ _ _ => rfl
  | select selection =>
      exact kept.of_engine
        (fun provider => Engine.books_setSelection selection provider world.engine) fun _ _ _ => rfl
  | bank operation nothing =>
      refine kept.of_engine (fun provider => ?_) fun counter _ _ => ?_
      · exact Engine.books_onBank (Bank.counts_of_countsNothing nothing _ _ provider)
      · exact congrArg (·.get counter) (Engine.totals_onBank operation world.engine)
  | takeJournal => exact kept.of_engine (fun _ => rfl) fun _ _ _ => rfl

theorem Kept.begin (kept : world.Kept) (model : String) {plan : List Attempt}
    (planned : plan ≠ []) (limit : Nat) :
    let begun := Run.begin model plan limit world.engine
    Kept ⟨begun.1, world.runs ++ [begun.2]⟩ := by
  intro begun
  have total_eq (amount : Run → Nat) :
      total amount ⟨begun.1, world.runs ++ [begun.2]⟩ = world.total amount + amount begun.2 := by
    simp [total]
  constructor
  · intro run member
    rcases List.mem_append.1 member with earlier | new
    · exact kept.standing run earlier
    · obtain rfl := List.mem_singleton.1 new
      exact Run.standing_begin model planned limit world.engine
  · intro run member provider
    rcases List.mem_append.1 member with earlier | new
    · exact kept.counted run earlier provider
    · obtain rfl := List.mem_singleton.1 new
      rfl
  · intro provider
    rw [total_eq, total_eq, total_eq]
    exact kept.booked provider
  · intro counter notPlans notFailures
    have counted := Engine.totals_count .runs counter world.engine
    rw [total_eq, ← kept.totalled counter notPlans notFailures]
    refine counted.trans ?_
    cases counter <;> rfl

theorem next_begin_of_error {request : PlanRequest} {engine : Engine} {fault : RoutingError}
    (made : world.engine.plan request = (engine, .error fault)) (limit : Nat) :
    world.next (.begin request limit) = { world with engine := engine } := by
  rw [World.next, made]

theorem next_begin_of_ok {request : PlanRequest} {engine : Engine} {plan : List Attempt}
    (made : world.engine.plan request = (engine, .ok plan)) (limit : Nat) :
    world.next (.begin request limit) =
      let begun := Run.begin request.model plan limit engine
      ⟨begun.1, world.runs ++ [begun.2]⟩ := by
  rw [World.next, made]

/-- Every step of a world keeps what is owed to its runs. -/
theorem Kept.next (kept : world.Kept) (step : WorldStep) : (world.next step).Kept := by
  cases step with
  | begin request limit =>
      have planned := kept.plan request
      cases made : world.engine.plan request with
      | mk engine result =>
          rw [made] at planned
          cases result with
          | error fault =>
              rw [next_begin_of_error made]
              exact planned
          | ok plan =>
              rw [next_begin_of_ok made]
              exact planned.begin request.model (Engine.plan_ne_nil made) limit
  | advance index stopped => exact kept.onRun (faithful_advance stopped) index
  | settle index ending => exact kept.onRun (faithful_settle ending) index
  | aside aside => exact kept.aside aside

theorem kept_run (settings : EngineSettings) (clock : Clock) (steps : List WorldStep) :
    (run settings clock steps).Kept := by
  have along (steps : List WorldStep) :
      ∀ world : World, world.Kept → (steps.foldl World.next world).Kept := by
    induction steps with
    | nil => exact fun _ kept => kept
    | cons step steps ih => exact fun world kept => ih (world.next step) (kept.next step)
  refine along steps (start settings clock) ⟨nofun, nofun, ?_, ?_⟩
  · exact fun provider => Engine.books_build settings clock provider
  · intro counter _ _
    cases counter <;> rfl

/-! ## The books of a world -/

/-- What the stores and the totals of an engine have counted is what its runs did.  Calls are
counted once they have ended; the call of a dropped run ends, and fails, when the run is dropped. -/
structure Balanced (world : World) : Prop where
  /-- The breaker, the health statistics and the metrics agree on the successes of a provider. -/
  successes (provider : String) :
    (world.engine.bank.getOrFresh provider).totalSuccesses =
        world.total (·.successesOf provider) ∧
      (world.engine.health.getOrFresh provider).successes =
        world.total (·.successesOf provider) ∧
      (world.engine.metrics.provider provider).successes = world.total (·.successesOf provider)
  /-- They agree on its failures. -/
  failures (provider : String) :
    (world.engine.bank.getOrFresh provider).totalFailures = world.total (·.failuresOf provider) ∧
      (world.engine.health.getOrFresh provider).failures = world.total (·.failuresOf provider) ∧
      (world.engine.metrics.provider provider).failures = world.total (·.failuresOf provider)
  /-- The calls in the metrics, the samples of the health statistics and the latencies are the
  calls made to the provider, but for those in flight. -/
  calls (provider : String) :
    (world.engine.metrics.provider provider).calls =
        (world.engine.health.getOrFresh provider).samples ∧
      (world.engine.metrics.provider provider).calls =
        (world.engine.metrics.provider provider).latency.total ∧
      (world.engine.metrics.provider provider).calls +
          world.runs.countP (·.isCalling provider) =
        world.total (·.callsOf provider)
  /-- The breaker and the metrics agree on the rejections, which are the skipped attempts. -/
  rejections (provider : String) :
    (world.engine.bank.getOrFresh provider).rejections = world.total (·.skipsOf provider) ∧
      (world.engine.metrics.provider provider).rejections = world.total (·.skipsOf provider)
  /-- The successes in the totals are the runs that ended with a response. -/
  runSuccesses : world.engine.metrics.totals.runSuccesses = world.runs.countP (·.succeeded)
  /-- The cancellations are the runs that ended cancelled and those dropped. -/
  cancellations : world.engine.metrics.totals.cancellations = world.runs.countP (·.cancelled)
  /-- The last resorts are the calls of last resort. -/
  lastResorts : world.engine.metrics.totals.lastResorts =
    world.total fun run => run.calls.countP (·.2)
  /-- The fallbacks are the breakers asked by each run after its first. -/
  fallbacks : world.engine.metrics.totals.fallbacks = world.total fun run => run.asks.length - 1
  /-- A run at its end has a planned record for every breaker it asked. -/
  finished : ∀ run ∈ world.runs, run.place = .finished →
    run.asks.length = run.report.records.countP (!·.lastResort)

theorem sum_toNat (test : Run → Bool) (runs : List Run) :
    (runs.map fun run => (test run).toNat).sum = runs.countP test := by
  induction runs with
  | nil => rfl
  | cons run runs ih =>
      rw [List.map_cons, List.sum_cons, ih, List.countP_cons, Nat.add_comm]
      cases test run <;> rfl

theorem sum_callsOf (provider : String) (runs : List Run)
    (counted : ∀ run ∈ runs, run.Counted provider) :
    (runs.map (·.callsOf provider)).sum = (runs.map (·.successesOf provider)).sum +
      (runs.map (·.failuresOf provider)).sum + runs.countP (·.isCalling provider) := by
  rw [← sum_toNat]
  induction runs with
  | nil => rfl
  | cons run runs ih =>
      have head : run.callsOf provider = _ := counted run List.mem_cons_self
      have tail := ih fun other member => counted other (List.mem_cons_of_mem _ member)
      simp only [List.map_cons, List.sum_cons]
      omega

theorem Kept.balanced (kept : world.Kept) : world.Balanced where
  successes provider := by
    have booked := kept.booked provider
    exact ⟨congrArg (·.breakerSuccesses) booked, congrArg (·.healthSuccesses) booked,
      congrArg (·.successes) booked⟩
  failures provider := by
    have booked := kept.booked provider
    exact ⟨congrArg (·.breakerFailures) booked, congrArg (·.healthFailures) booked,
      congrArg (·.failures) booked⟩
  calls provider := by
    have booked := kept.booked provider
    have calls : (world.engine.metrics.provider provider).calls = _ := congrArg (·.calls) booked
    have samples := congrArg (·.samples) booked
    have latencies := congrArg (·.latencies) booked
    refine ⟨calls.trans samples.symm, calls.trans latencies.symm, ?_⟩
    rw [calls]
    exact (sum_callsOf provider world.runs fun run member =>
      kept.counted run member provider).symm
  rejections provider := by
    have booked := kept.booked provider
    exact ⟨congrArg (·.breakerRejections) booked, congrArg (·.rejections) booked⟩
  runSuccesses := (kept.totalled .runSuccesses nofun nofun).trans (sum_toNat Run.succeeded _)
  cancellations := (kept.totalled .cancellations nofun nofun).trans (sum_toNat Run.cancelled _)
  lastResorts := kept.totalled .lastResorts nofun nofun
  fallbacks := kept.totalled .fallbacks nofun nofun
  finished run member here := by
    have standing := kept.standing run member
    rw [Run.Standing, here] at standing
    obtain ⟨planned, resort, rest, ledger, -⟩ := standing
    exact ledger.asks_length

/-- However runs are interleaved with each other and with whatever else is done with an engine, the
stores and the totals of the engine count what the runs did. -/
theorem balanced_run (settings : EngineSettings) (clock : Clock) (steps : List WorldStep) :
    (run settings clock steps).Balanced :=
  (kept_run settings clock steps).balanced

/-! ## Failover runs as steps of a world -/

/-- A step that leaves the first runs of a world alone. -/
def Spares (count : Nat) : WorldStep → Prop
  | .begin _ _ => True
  | .advance index _ => count ≤ index
  | .settle index _ => count ≤ index
  | .aside _ => True

theorem getElem?_onRun {step : Engine → Run → Engine × Run} {index other : Nat}
    (apart : index ≠ other) : (world.onRun index step).runs[other]? = world.runs[other]? := by
  cases found : world.runs[index]? with
  | none => rw [onRun, found]
  | some run =>
      rw [onRun_of_some found]
      exact List.getElem?_set_ne apart

theorem length_onRun (step : Engine → Run → Engine × Run) (index : Nat) (world : World) :
    (world.onRun index step).runs.length = world.runs.length := by
  cases found : world.runs[index]? with
  | none => rw [onRun, found]
  | some run =>
      rw [onRun_of_some found]
      exact List.length_set

theorem length_next (step : WorldStep) (world : World) :
    world.runs.length ≤ (world.next step).runs.length := by
  cases step with
  | begin request limit =>
      cases made : world.engine.plan request with
      | mk engine result =>
          cases result with
          | error fault => exact Nat.le_of_eq (by rw [next_begin_of_error made])
          | ok plan =>
              rw [next_begin_of_ok made]
              simp
  | advance index stopped => exact Nat.le_of_eq (length_onRun _ index world).symm
  | settle index ending => exact Nat.le_of_eq (length_onRun _ index world).symm
  | aside aside => exact Nat.le_refl _

theorem getElem?_next {count index : Nat} {step : WorldStep} (spares : Spares count step)
    (first : index < count) (known : index < world.runs.length) :
    (world.next step).runs[index]? = world.runs[index]? := by
  cases step with
  | begin request limit =>
      cases made : world.engine.plan request with
      | mk engine result =>
          cases result with
          | error fault => rw [next_begin_of_error made]
          | ok plan =>
              rw [next_begin_of_ok made]
              exact List.getElem?_append_left known
  | advance other stopped => exact getElem?_onRun (Nat.ne_of_gt (Nat.lt_of_lt_of_le first spares))
  | settle other ending => exact getElem?_onRun (Nat.ne_of_gt (Nat.lt_of_lt_of_le first spares))
  | aside aside => rfl

/-- Steps that leave the first runs alone leave each of them as it is. -/
theorem getElem?_steps {count index : Nat} (first : index < count) (steps : List WorldStep) :
    ∀ world : World, (∀ step ∈ steps, Spares count step) → index < world.runs.length →
      (steps.foldl World.next world).runs[index]? = world.runs[index]? := by
  induction steps with
  | nil => exact fun _ _ _ => rfl
  | cons step steps ih =>
      intro world spare known
      have later := ih (world.next step)
        (fun other member => spare other (List.mem_cons_of_mem _ member))
        (Nat.lt_of_lt_of_le known (length_next step world))
      exact later.trans (getElem?_next (spare step List.mem_cons_self) first known)

/-- While a call of the caller is in flight, the engine takes steps that leave earlier runs
alone. -/
def Interleaves {σ : Type} (caller : Caller σ) : Prop :=
  ∀ (attempt : Attempt) (state : σ) (world : World), ∃ steps : List WorldStep,
    (∀ step ∈ steps, Spares world.runs.length step) ∧
      (caller.call attempt state world.engine).engine = (steps.foldl World.next world).engine

theorem Spares.of_le {count fewer : Nat} {step : WorldStep} (spares : Spares count step)
    (le : fewer ≤ count) : Spares fewer step := by
  cases step with
  | begin _ _ | aside _ => trivial
  | advance index _ | settle index _ => exact Nat.le_trans le spares

variable {σ : Type} {caller : Caller σ} {first : World} {steps : List WorldStep}
  {now after : Situation σ}

/-- Some steps that leave earlier runs alone bring a run by itself into a situation. -/
structure Holds (first : World) (steps : List WorldStep) (now : Situation σ) : Prop where
  /-- The steps leave earlier runs alone. -/
  spares : ∀ step ∈ steps, Spares first.runs.length step
  /-- The engine is that of the situation. -/
  engine : (steps.foldl World.next first).engine = now.engine
  /-- The run is that of the situation. -/
  run : (steps.foldl World.next first).runs[first.runs.length]? = some now.run

theorem Holds.onRun {change : Engine → Run → Engine × Run} {engine : Engine} {state : σ}
    (holds : Holds first steps now) (more : List WorldStep) (last : WorldStep)
    (spares : ∀ step ∈ more, Spares (steps.foldl World.next first).runs.length step)
    (same : engine = (more.foldl World.next (steps.foldl World.next first)).engine)
    (own : Spares first.runs.length last)
    (step : ∀ world : World, world.next last = world.onRun first.runs.length change) :
    Holds first (steps ++ more ++ [last])
      (⟨(change engine now.run).1, state, (change engine now.run).2⟩ : Situation σ) := by
  let world := steps.foldl World.next first
  have known : first.runs.length < world.runs.length :=
    (List.getElem?_eq_some_iff.1 holds.run).1
  have kept : (more.foldl World.next world).runs[first.runs.length]? = some now.run :=
    (getElem?_steps known more world spares known).trans holds.run
  have there : first.runs.length < (more.foldl World.next world).runs.length :=
    (List.getElem?_eq_some_iff.1 kept).1
  have taken : (steps ++ more ++ [last]).foldl World.next first =
      ⟨(change engine now.run).1, (more.foldl World.next world).runs.set first.runs.length
        (change engine now.run).2⟩ := by
    rw [List.foldl_append, List.foldl_append, List.foldl_cons, List.foldl_nil, step,
      onRun_of_some kept, ← same]
  refine ⟨fun other member => ?_, ?_, ?_⟩
  · rcases List.mem_append.1 member with earlier | final
    · rcases List.mem_append.1 earlier with before | between
      · exact holds.spares other before
      · exact (spares other between).of_le (Nat.le_of_lt known)
    · obtain rfl := List.mem_singleton.1 final
      exact own
  · rw [taken]
  · rw [taken]
    exact List.getElem?_set_self there

theorem Holds.next (holds : Holds first steps now) (interleaves : Interleaves caller) :
    ∃ steps, Holds first steps (now.next caller) := by
  let world := steps.foldl World.next first
  cases here : now.run.place with
  | calling attempt lastResort started rest =>
      obtain ⟨more, spares, same⟩ := interleaves attempt now.state world
      rw [holds.engine] at same
      rw [Situation.next_of_calling here]
      exact ⟨_, holds.onRun more (.settle first.runs.length _) spares same (Nat.le_refl _)
        fun _ => rfl⟩
  | examining _ | finished | dropped _ =>
      have advanced : now.next caller =
          let advanced := now.run.advance (caller.stopped now.state now.engine) now.engine
          ⟨advanced.1, now.state, advanced.2⟩ := by
        rw [Situation.next, here]
      rw [advanced]
      exact ⟨_, holds.onRun [] (.advance first.runs.length _) (by simp) holds.engine.symm
        (Nat.le_refl _) fun _ => rfl⟩

theorem Holds.leads (holds : Holds first steps now) (interleaves : Interleaves caller)
    (leads : Situation.Leads caller now after) : ∃ steps, Holds first steps after := by
  induction leads with
  | refl => exact ⟨steps, holds⟩
  | tail _ step ih =>
      obtain ⟨steps, holds⟩ := ih
      rw [step]
      exact holds.next interleaves

/-- A failover run is an interleaving of its own steps with those taken while its calls are in
flight, among them the steps of runs begun in the meantime. -/
theorem failover_steps (interleaves : Interleaves caller) (world : World) (request : PlanRequest)
    (limit : Nat) (state : σ) :
    ∃ steps : List WorldStep, (∀ step ∈ steps, Spares world.runs.length step) ∧
      (world.engine.failover caller request limit state).1 =
        (steps.foldl World.next world).engine := by
  cases made : world.engine.plan request with
  | mk drawn result =>
      cases result with
      | error fault =>
          refine ⟨[.begin request limit], fun step member => ?_, ?_⟩
          · obtain rfl := List.mem_singleton.1 member
            trivial
          · rw [List.foldl_cons, List.foldl_nil, next_begin_of_error made, Engine.failover, made]
      | ok plan =>
          let begun := Run.begin request.model plan limit drawn
          have opened : [WorldStep.begin request limit].foldl World.next world =
              ⟨begun.1, world.runs ++ [begun.2]⟩ := by
            rw [List.foldl_cons, List.foldl_nil, next_begin_of_ok made]
          have holds : Holds world [.begin request limit] ⟨begun.1, state, begun.2⟩ := by
            refine ⟨fun step member => ?_, by rw [opened], ?_⟩
            · obtain rfl := List.mem_singleton.1 member
              trivial
            · rw [opened]
              exact List.getElem?_concat_length
          obtain ⟨last, ending, leads, -, result⟩ :=
            Situation.leads_failover caller made limit state
          obtain ⟨steps, reached⟩ := holds.leads interleaves leads
          exact ⟨steps, reached.spares, by rw [result, reached.engine]⟩

/-- A caller whose calls last while another run is made interleaves, if that run does. -/
theorem interleaves_failover {τ : Type} {inner : Caller τ} (interleaves : Interleaves inner)
    (request : PlanRequest) (limit : Nat) (begun : τ) (stopped : σ → Engine → Bool)
    (ending : CallEnd) :
    Interleaves ⟨stopped, fun _ state engine =>
      ⟨state, (engine.failover inner request limit begun).1, ending⟩⟩ :=
  fun _ _ world => failover_steps interleaves world request limit begun

end World

end ProviderRouting
