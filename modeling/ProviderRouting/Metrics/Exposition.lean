import ProviderRouting.Metrics.Basic
import ProviderRouting.Number.Notation

/-!
# Text exposition of metrics

The export lists metric families.  A family starts with a line of help and a line of type, followed
by its samples and an empty line.  Counts of the engine as a whole have one sample each; the other
families have one sample per provider and are left out when no provider is listed.
-/

namespace ProviderRouting.Exposition

/-- The kind of a metric family. -/
inductive Kind where
  /-- A count that only grows. -/
  | counter
  /-- A value that may change freely. -/
  | gauge
deriving DecidableEq

/-- The name of a kind in the export. -/
def Kind.name : Kind → String
  | counter => "counter"
  | gauge => "gauge"

/-- A metric family of the engine as a whole. -/
structure TotalFamily where
  /-- The name of the metric. -/
  name : String
  /-- What it counts. -/
  help : String
  /-- Its value. -/
  counter : Counter

/-- A metric family with one sample per provider. -/
structure ProviderFamily where
  /-- The name of the metric. -/
  name : String
  /-- Whether it counts or measures. -/
  kind : Kind
  /-- What it shows. -/
  help : String
  /-- The text of its value. -/
  value : ProviderSummary → String

/-- The families of the engine as a whole. -/
def totalFamilies : List TotalFamily :=
  [⟨"gateway_plans_total", "Plans served", .plans⟩,
    ⟨"gateway_plan_failures_total", "Plans that failed", .planFailures⟩,
    ⟨"gateway_failover_runs_total", "Failover runs started", .runs⟩,
    ⟨"gateway_failover_successes_total", "Failover runs that succeeded", .runSuccesses⟩,
    ⟨"gateway_fallbacks_total", "Moves to a later attempt", .fallbacks⟩,
    ⟨"gateway_last_resort_calls_total", "Calls made with every breaker open", .lastResorts⟩,
    ⟨"gateway_cancellations_total", "Failover runs cancelled", .cancellations⟩]

/-- The families with one sample per provider. -/
def providerFamilies : List ProviderFamily :=
  [⟨"gateway_provider_calls_total", .counter, "Calls dispatched per provider",
      fun summary => toString summary.metrics.calls⟩,
    ⟨"gateway_provider_successes_total", .counter, "Successful calls per provider",
      fun summary => toString summary.metrics.successes⟩,
    ⟨"gateway_provider_failures_total", .counter, "Failed calls per provider",
      fun summary => toString summary.metrics.failures⟩,
    ⟨"gateway_breaker_rejected_total", .counter, "Calls denied by the circuit breaker",
      fun summary => toString summary.metrics.rejections⟩,
    ⟨"gateway_breaker_opened_total", .counter, "Transitions into OPEN",
      fun summary => toString summary.metrics.opened⟩,
    ⟨"gateway_breaker_half_opened_total", .counter, "Transitions into HALF_OPEN",
      fun summary => toString summary.metrics.halfOpened⟩,
    ⟨"gateway_breaker_closed_total", .counter, "Transitions into CLOSED",
      fun summary => toString summary.metrics.closed⟩,
    ⟨"gateway_breaker_phase", .gauge, "Breaker phase (0 closed, 1 half-open, 2 open)",
      fun summary => toString summary.metrics.phase⟩,
    ⟨"gateway_provider_latency_p50_ms", .gauge, "Median call latency per provider",
      fun summary => NumberStyle.plain.write summary.median⟩]

/-- The lines that start a family. -/
def heading (name help : String) (kind : Kind) : String :=
  "# HELP " ++ name ++ " " ++ help ++ "\n# TYPE " ++ name ++ " " ++ kind.name ++ "\n"

/-- A family of the engine as a whole. -/
def writeTotal (totals : Totals) (family : TotalFamily) : String :=
  heading family.name family.help .counter
    ++ family.name ++ " " ++ toString (totals.get family.counter) ++ "\n\n"

/-- The sample of one provider. -/
def writeSample (family : ProviderFamily) (summary : ProviderSummary) : String :=
  family.name ++ "\x7bprovider=\"" ++ summary.provider ++ "\"\x7d " ++ family.value summary ++ "\n"

/-- A family with one sample per provider. -/
def writeProviders (summaries : List ProviderSummary) (family : ProviderFamily) : String :=
  heading family.name family.help family.kind
    ++ String.join (summaries.map (writeSample family)) ++ "\n"

/-- The whole export. -/
def write (metrics : Metrics) : String :=
  let summaries := metrics.summaries
  String.join (totalFamilies.map (writeTotal metrics.totals))
    ++ (if summaries.isEmpty then ""
      else String.join (providerFamilies.map (writeProviders summaries)))

end ProviderRouting.Exposition
