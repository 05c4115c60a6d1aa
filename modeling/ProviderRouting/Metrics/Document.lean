import ProviderRouting.Document.Basic
import ProviderRouting.Metrics.Basic

/-!
# Metrics in documents

Histograms and counts, as they are written in documents.
-/

namespace ProviderRouting

/-- The document of what a histogram shows. -/
def HistogramSnapshot.encode (snapshot : HistogramSnapshot) : Document :=
  .record [("buckets", .list (snapshot.bounds.map .float)),
    ("counts", .list (snapshot.counts.map .natural)), ("total", .natural snapshot.total),
    ("sum", .natural snapshot.sum), ("min", .natural snapshot.least),
    ("max", .natural snapshot.greatest), ("mean", .float snapshot.mean)]

/-- The document of the counts of a provider. -/
def ProviderSummary.encode (summary : ProviderSummary) : Document :=
  .record [("provider", .text summary.provider), ("calls", .natural summary.metrics.calls),
    ("successes", .natural summary.metrics.successes),
    ("failures", .natural summary.metrics.failures),
    ("rejected", .natural summary.metrics.rejections),
    ("transitions_open", .natural summary.metrics.opened),
    ("transitions_half_open", .natural summary.metrics.halfOpened),
    ("transitions_closed", .natural summary.metrics.closed),
    ("phase", .natural summary.metrics.phase), ("latency_p50_ms", .float summary.median),
    ("latency_p99_ms", .float summary.percentile99), ("latency_mean_ms", .float summary.mean)]

/-- The document of all counts. -/
def Metrics.encode (metrics : Metrics) : Document :=
  .record [("plans", .natural metrics.totals.plans),
    ("plan_failures", .natural metrics.totals.planFailures),
    ("failover_runs", .natural metrics.totals.runs),
    ("failover_successes", .natural metrics.totals.runSuccesses),
    ("fallbacks", .natural metrics.totals.fallbacks),
    ("last_resort_calls", .natural metrics.totals.lastResorts),
    ("cancellations", .natural metrics.totals.cancellations),
    ("open_breakers", .natural metrics.openBreakers),
    ("providers", .list (metrics.summaries.map ProviderSummary.encode))]

end ProviderRouting
