import ProviderRouting.Document.Basic
import ProviderRouting.Health.Stats

/-!
# Health in documents

What health statistics show, as it is written in documents.
-/

namespace ProviderRouting

/-- The document of what the statistics of a provider show. -/
def HealthSnapshot.encode (snapshot : HealthSnapshot) : Document :=
  .record [("provider", .text snapshot.provider), ("success_rate", .float snapshot.successRate),
    ("avg_latency_ms", .float snapshot.latencyMilliseconds),
    ("samples", .natural snapshot.samples), ("successes", .natural snapshot.successes),
    ("failures", .natural snapshot.failures)]

end ProviderRouting
