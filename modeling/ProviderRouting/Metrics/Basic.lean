import ProviderRouting.Breaker.Bank
import ProviderRouting.Metrics.Histogram

/-!
# Metrics

Metrics count what the engine does: plans and failover runs as a whole, and per provider its calls,
their outcomes and latencies, and what its breaker reports.  A provider is listed from the first
time that something is counted for it.

Counts are whole numbers without a bound, here and in histograms, health statistics and breakers.
They stand for counters on 64-bit words: no engine lives to count `2 ^ 64` events.
-/

namespace ProviderRouting

/-- What is counted for one provider. -/
structure ProviderMetrics where
  /-- Calls made. -/
  calls : Nat
  /-- Calls that succeeded. -/
  successes : Nat
  /-- Calls that failed. -/
  failures : Nat
  /-- Calls that the breaker rejected. -/
  rejections : Nat
  /-- How often the breaker opened. -/
  opened : Nat
  /-- How often the breaker became half-open. -/
  halfOpened : Nat
  /-- How often the breaker closed. -/
  closed : Nat
  /-- The gauge of the breaker's phase. -/
  phase : Nat
  /-- Call latencies. -/
  latency : Histogram
deriving Inhabited

/-- What is counted for one provider, with the figures read off its latencies. -/
structure ProviderSummary where
  /-- The provider. -/
  provider : String
  /-- Its counts. -/
  metrics : ProviderMetrics
  /-- The median latency in milliseconds. -/
  median : Float
  /-- The latency in milliseconds that one call in a hundred exceeds. -/
  percentile99 : Float
  /-- The mean latency in milliseconds. -/
  mean : Float

namespace ProviderMetrics

/-- Nothing counted yet. -/
def fresh : ProviderMetrics where
  calls := 0
  successes := 0
  failures := 0
  rejections := 0
  opened := 0
  halfOpened := 0
  closed := 0
  phase := 0
  latency := .latencies

/-- Count a call. -/
def recordCall (succeeded : Bool) (latency : Duration) (metrics : ProviderMetrics) :
    ProviderMetrics :=
  { metrics with
    calls := metrics.calls + 1
    successes := metrics.successes + succeeded.toNat
    failures := metrics.failures + (!succeeded).toNat
    latency := metrics.latency.recordDuration latency }

/-- Count what a breaker reports. -/
def observe (notice : Notice) (metrics : ProviderMetrics) : ProviderMetrics :=
  match notice with
  | .rejected => { metrics with rejections := metrics.rejections + 1 }
  | .changed transition =>
    let metrics := { metrics with phase := transition.target.gauge }
    match transition.target with
    | .opened => { metrics with opened := metrics.opened + 1 }
    | .halfOpen => { metrics with halfOpened := metrics.halfOpened + 1 }
    | .closed => { metrics with closed := metrics.closed + 1 }

/-- The counts with the figures read off the latencies. -/
def summary (provider : String) (metrics : ProviderMetrics) : ProviderSummary :=
  let latency := metrics.latency.snapshot
  ⟨provider, metrics, latency.percentile 0.5, latency.percentile 0.99, latency.mean⟩

end ProviderMetrics

/-- What the engine counts as a whole. -/
structure Totals where
  /-- Plans made. -/
  plans : Nat
  /-- Plans that could not be made. -/
  planFailures : Nat
  /-- Failover runs started. -/
  runs : Nat
  /-- Failover runs that succeeded. -/
  runSuccesses : Nat
  /-- Moves to a later attempt. -/
  fallbacks : Nat
  /-- Calls made although every breaker was open. -/
  lastResorts : Nat
  /-- Failover runs that were cancelled. -/
  cancellations : Nat
deriving DecidableEq, Inhabited

/-- A count of the engine as a whole. -/
inductive Counter where
  /-- Plans made. -/
  | plans
  /-- Plans that could not be made. -/
  | planFailures
  /-- Failover runs started. -/
  | runs
  /-- Failover runs that succeeded. -/
  | runSuccesses
  /-- Moves to a later attempt. -/
  | fallbacks
  /-- Calls made although every breaker was open. -/
  | lastResorts
  /-- Failover runs that were cancelled. -/
  | cancellations
deriving DecidableEq

/-- A counter by its name. -/
def Counter.ofName? : String → Option Counter
  | "plans" => some plans
  | "plan_failures" => some planFailures
  | "failover_runs" => some runs
  | "failover_successes" => some runSuccesses
  | "fallbacks" => some fallbacks
  | "last_resort_calls" => some lastResorts
  | "cancellations" => some cancellations
  | _ => none

namespace Totals

/-- Nothing counted yet. -/
def zero : Totals := ⟨0, 0, 0, 0, 0, 0, 0⟩

/-- The value of a counter. -/
def get (totals : Totals) : Counter → Nat
  | .plans => totals.plans
  | .planFailures => totals.planFailures
  | .runs => totals.runs
  | .runSuccesses => totals.runSuccesses
  | .fallbacks => totals.fallbacks
  | .lastResorts => totals.lastResorts
  | .cancellations => totals.cancellations

/-- Count one more. -/
def increment (counter : Counter) (totals : Totals) : Totals :=
  match counter with
  | .plans => { totals with plans := totals.plans + 1 }
  | .planFailures => { totals with planFailures := totals.planFailures + 1 }
  | .runs => { totals with runs := totals.runs + 1 }
  | .runSuccesses => { totals with runSuccesses := totals.runSuccesses + 1 }
  | .fallbacks => { totals with fallbacks := totals.fallbacks + 1 }
  | .lastResorts => { totals with lastResorts := totals.lastResorts + 1 }
  | .cancellations => { totals with cancellations := totals.cancellations + 1 }

end Totals

/-- What is counted, as a whole and per provider. -/
structure Metrics where
  /-- The counts of the engine as a whole. -/
  totals : Totals
  /-- The counts per provider. -/
  providers : Table ProviderMetrics
deriving Inhabited

namespace Metrics

/-- Nothing counted yet. -/
def fresh : Metrics := ⟨.zero, .empty⟩

/-- The counts of a provider. -/
def provider (metrics : Metrics) (name : String) : ProviderMetrics :=
  (metrics.providers.get? name).getD .fresh

/-- Change the counts of a provider. -/
def update (name : String) (change : ProviderMetrics → ProviderMetrics) (metrics : Metrics) :
    Metrics :=
  { metrics with providers := metrics.providers.insert name (change (metrics.provider name)) }

/-- List a provider without counting anything. -/
def touch (name : String) (metrics : Metrics) : Metrics := metrics.update name id

/-- Count one more of a counter. -/
def increment (counter : Counter) (metrics : Metrics) : Metrics :=
  { metrics with totals := metrics.totals.increment counter }

/-- Count a call. -/
def recordCall (name : String) (succeeded : Bool) (latency : Duration) (metrics : Metrics) :
    Metrics :=
  metrics.update name (·.recordCall succeeded latency)

/-- Count what a breaker reports. -/
def observe (metrics : Metrics) (event : Event) : Metrics :=
  metrics.update event.provider (·.observe event.notice)

/-- Count everything that breakers reported, in order. -/
def observeAll (metrics : Metrics) (events : List Event) : Metrics :=
  events.foldl observe metrics

/-- The counts of every listed provider, by name. -/
def summaries (metrics : Metrics) : List ProviderSummary :=
  metrics.providers.entries.map fun entry => entry.2.summary entry.1

/-- The number of listed providers whose breaker is open. -/
def openBreakers (metrics : Metrics) : Nat :=
  metrics.summaries.countP fun summary => summary.metrics.phase == Phase.opened.gauge

end Metrics

end ProviderRouting
