import ProviderRouting.Breaker.Snapshot
import ProviderRouting.Document.Decoding
import ProviderRouting.Time.TimestampText

/-!
# Breakers in documents

Phases, thresholds and snapshots as they are written in documents.
-/

namespace ProviderRouting

open Document

/-- A wall time, written as a text. -/
def Timestamp.decode : Decoder Timestamp := fun conventions document =>
  (toText conventions document).bind Timestamp.read?

/-- A phase, by its code. -/
def Phase.decode : Decoder Phase := toAlternative Phase.ofCode?

/-- Thresholds; what is not given keeps its standard value. -/
def Thresholds.decode : Decoder Thresholds := fun conventions document => do
  let members ← members ["failure_threshold", "success_threshold", "timeout_seconds",
    "failure_window_seconds", "failure_rate_threshold", "min_requests_for_rate"]
    conventions document
  return {
    failures := ← members.orElse conventions "failure_threshold" toWord32 standard.failures
    successes := ← members.orElse conventions "success_threshold" toWord32 standard.successes
    timeoutSeconds := ←
      members.orElse conventions "timeout_seconds" toWord64 standard.timeoutSeconds
    windowSeconds := ←
      members.orElse conventions "failure_window_seconds" toWord64 standard.windowSeconds
    rate := ← members.orElse conventions "failure_rate_threshold" toDouble standard.rate
    minimumSamples := ←
      members.orElse conventions "min_requests_for_rate" toWord32 standard.minimumSamples }

/-- The document of thresholds. -/
def Thresholds.encode (thresholds : Thresholds) : Document :=
  .record [("failure_threshold", .natural thresholds.failures.toNat),
    ("success_threshold", .natural thresholds.successes.toNat),
    ("timeout_seconds", .natural thresholds.timeoutSeconds.toNat),
    ("failure_window_seconds", .natural thresholds.windowSeconds.toNat),
    ("failure_rate_threshold", .float thresholds.rate),
    ("min_requests_for_rate", .natural thresholds.minimumSamples.toNat)]

/-- The document of a snapshot, given those of its times. -/
def BreakerSnapshot.encodeWith (opened : Option Timestamp → Document)
    (retry : Option Nat → Document) (snapshot : BreakerSnapshot) : Document :=
  .record [("provider", .text snapshot.provider), ("phase", .text snapshot.phase.code),
    ("failure_count", .natural snapshot.failureCount),
    ("success_count", .natural snapshot.successCount),
    ("failure_rate", .float snapshot.failureRate),
    ("window_samples", .natural snapshot.windowSamples),
    ("opened_at", opened snapshot.openedAt),
    ("seconds_until_retry", retry snapshot.secondsUntilRetry),
    ("total_successes", .natural snapshot.totalSuccesses),
    ("total_failures", .natural snapshot.totalFailures),
    ("rejected_calls", .natural snapshot.rejections),
    ("times_opened", .natural snapshot.timesOpened)]

/-- The document of a snapshot. -/
def BreakerSnapshot.encode (snapshot : BreakerSnapshot) : Document :=
  snapshot.encodeWith (.ofOption fun time => .text time.write) (.ofOption .natural)

/-- A snapshot of a breaker. -/
def BreakerSnapshot.decode : Decoder BreakerSnapshot := fun conventions document => do
  let members ← members ["provider", "phase", "failure_count", "success_count", "failure_rate",
    "window_samples", "opened_at", "seconds_until_retry", "total_successes", "total_failures",
    "rejected_calls", "times_opened"] conventions document
  let count (name : String) : Option Nat :=
    members.required conventions name (toNatural UInt64.size)
  let smallCount (name : String) : Option Nat :=
    members.required conventions name (toNatural UInt32.size)
  return {
    provider := ← members.required conventions "provider" toText
    phase := ← members.required conventions "phase" Phase.decode
    failureCount := ← smallCount "failure_count"
    successCount := ← smallCount "success_count"
    failureRate := ← members.required conventions "failure_rate" toDouble
    windowSamples := ← count "window_samples"
    openedAt := ← members.optional conventions "opened_at" Timestamp.decode
    secondsUntilRetry := ←
      members.optional conventions "seconds_until_retry" (toNatural UInt64.size)
    totalSuccesses := ← count "total_successes"
    totalFailures := ← count "total_failures"
    rejections := ← count "rejected_calls"
    timesOpened := ← count "times_opened" }

end ProviderRouting
