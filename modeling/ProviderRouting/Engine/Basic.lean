import ProviderRouting.Metrics.Basic
import ProviderRouting.Plan.Basic

/-!
# Engines

An engine joins the registry, the breakers, the health statistics, the metrics and the selection
settings over one clock.  The metrics watch the breakers: whatever breakers report is counted at
once, and kept in the journal until somebody takes it.
-/

namespace ProviderRouting

/-- The routing engine. -/
structure Engine where
  /-- The time. -/
  clock : Clock
  /-- The known models. -/
  registry : Registry
  /-- The breakers. -/
  bank : Bank
  /-- The health statistics. -/
  health : HealthTracker
  /-- The counts. -/
  metrics : Metrics
  /-- The selection settings. -/
  selection : Selection
  /-- How many planned attempts a run examines unless it says so itself. -/
  maxRetries : Nat
  /-- What breakers reported since the journal was last taken, in order. -/
  journal : List Event
deriving Inhabited

/-- What an engine is built from. -/
structure EngineSettings where
  /-- The default thresholds. -/
  thresholds : Thresholds
  /-- Thresholds of single providers; of several for one provider the last counts. -/
  overrides : List (String × Thresholds)
  /-- The selection settings. -/
  selection : Selection
  /-- How many planned attempts a run examines unless it says so itself; at least one. -/
  maxRetries : Nat
  /-- Models that are known from the start. -/
  registry : Registry

namespace EngineSettings

/-- The settings used when nothing is set. -/
def standard : EngineSettings := ⟨.standard, [], .standard, 3, .empty⟩

instance : Inhabited EngineSettings := ⟨standard⟩

/-- The bank with the thresholds of the settings. -/
def bank (settings : EngineSettings) : Bank :=
  settings.overrides.foldl (fun bank entry => bank.setProvider entry.1 entry.2)
    (.ofDefaults settings.thresholds)

/-- The engine with these settings, on a clock. -/
def build (settings : EngineSettings) (clock : Clock) : Engine where
  clock := clock
  registry := settings.registry
  bank := settings.bank
  health := .ofFactor settings.selection.factor
  metrics := .fresh
  selection := settings.selection
  maxRetries := max settings.maxRetries 1
  journal := []

end EngineSettings

namespace Engine

/-- Count and keep what breakers reported. -/
def report (events : List Event) (engine : Engine) : Engine :=
  { engine with
    metrics := engine.metrics.observeAll events
    journal := engine.journal ++ events }

/-- Carry out an operation on the breakers; the answer is whether it was granted. -/
def onBank (operation : BankOperation) (engine : Engine) : Engine × Bool :=
  let outcome := engine.bank.apply operation engine.clock.moment
  ({ engine with bank := outcome.bank }.report outcome.events, outcome.granted)

/-- Move the clock forward. -/
def advance (duration : Duration) (engine : Engine) : Engine :=
  { engine with clock := engine.clock.advance duration }

/-- Change the known models. -/
def onRegistry (change : Registry → Registry) (engine : Engine) : Engine :=
  { engine with registry := change engine.registry }

/-- Change the health statistics. -/
def onHealth (change : HealthTracker → HealthTracker) (engine : Engine) : Engine :=
  { engine with health := change engine.health }

/-- Change the counts. -/
def onMetrics (change : Metrics → Metrics) (engine : Engine) : Engine :=
  { engine with metrics := change engine.metrics }

/-- Count one more of a counter. -/
def count (counter : Counter) (engine : Engine) : Engine :=
  engine.onMetrics (·.increment counter)

/-- Replace the selection settings; the smoothing factor applies to every provider at once. -/
def setSelection (selection : Selection) (engine : Engine) : Engine :=
  { engine with selection := selection }.onHealth (·.setFactor selection.factor)

/-- What planning looks at. -/
def planningView (engine : Engine) : PlanningView :=
  ⟨engine.registry, engine.bank, engine.health, engine.selection⟩

/-- Plan the attempts for a request and count whether that was possible. -/
def plan (request : PlanRequest) (engine : Engine) :
    Engine × Except RoutingError (List Attempt) :=
  match engine.planningView.plan request with
  | .ok attempts => (engine.count .plans, .ok attempts)
  | .error fault => (engine.count .planFailures, .error fault)

/-- Look at one breaker, which must exist. -/
def breakerState (provider : String) (engine : Engine) :
    Engine × Except RoutingError BreakerSnapshot :=
  let (bank, view) := engine.bank.snapshot provider engine.clock.moment
  ({ engine with bank := bank },
    match view with
    | some snapshot => .ok snapshot
    | none => .error (.breakerNotFound provider))

/-- Look at every breaker. -/
def breakerStates (engine : Engine) : Engine × Table BreakerSnapshot :=
  let (bank, views) := engine.bank.snapshots engine.clock.moment
  ({ engine with bank := bank }, views)

/-- Take what breakers reported since the last time. -/
def takeJournal (engine : Engine) : Engine × List Event :=
  ({ engine with journal := [] }, engine.journal)

/-- The inspection text of the part that plans. -/
def inspectSelector (engine : Engine) : String :=
  "ProviderSelector \x7b models: " ++ toString engine.registry.size
    ++ ", breakers: " ++ toString engine.bank.size
    ++ ", config: " ++ engine.selection.inspect ++ " \x7d"

/-- The inspection text of the engine. -/
def inspect (engine : Engine) : String :=
  "ProviderRouter \x7b selector: " ++ engine.inspectSelector
    ++ ", max_retries: " ++ toString engine.maxRetries ++ " \x7d"

end Engine

end ProviderRouting
