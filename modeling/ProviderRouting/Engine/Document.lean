import ProviderRouting.Document.Basic
import ProviderRouting.Engine.Report

/-!
# Plans and runs in documents

Planned attempts and reports of failover runs, as they are written in documents.
-/

namespace ProviderRouting

/-- The document of a planned attempt. -/
def Attempt.encode (attempt : Attempt) : Document :=
  .record [("provider", .text attempt.provider),
    ("provider_model_id", .text attempt.providerModel), ("rank", .natural attempt.rank),
    ("phase", .text attempt.phase.code)]

/-- The document of an examined attempt. -/
def AttemptRecord.encode (record : AttemptRecord) : Document :=
  .record [("provider", .text record.provider), ("model", .text record.providerModel),
    ("rank", .natural record.rank), ("kind", .text record.outcome.kind),
    ("error", .ofOption .text record.outcome.error?), ("called", .bool record.outcome.wasCalled),
    ("last_resort", .bool record.lastResort), ("latency_ns", .ofOption .natural record.latency)]

/-- The document of a report. -/
def RunReport.encode (report : RunReport) : Document :=
  .record [("model", .text report.model), ("success", .bool report.success),
    ("response", .ofOption .text report.response),
    ("provider_used", .ofOption .text report.providerUsed), ("tried", .natural report.tried),
    ("cancelled", .bool report.cancelled),
    ("attempts", .list (report.records.map AttemptRecord.encode)),
    ("errors", .list (report.errors.map fun (provider, error) => .texts [provider, error])),
    ("last_error", .ofOption .text report.lastError), ("skipped", .natural report.skipped),
    ("all_circuit_broken", .bool report.allCircuitBroken), ("summary", .text report.summary)]

end ProviderRouting
