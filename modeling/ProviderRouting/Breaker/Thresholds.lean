import ProviderRouting.Number.Notation
import ProviderRouting.Time.Duration

/-!
# Breaker thresholds

The thresholds say when a breaker opens, for how long, and how many successful probes close it.
They are usable when the counts that must be reached are not zero and the rate threshold is a
number above zero and at most one.
-/

namespace ProviderRouting

/-- When a breaker opens and closes. -/
structure Thresholds where
  /-- Consecutive failures that open the breaker. -/
  failures : UInt32
  /-- Consecutive successful probes that close it. -/
  successes : UInt32
  /-- Seconds to stay open before a probe, and seconds a probe may stay without an outcome. -/
  timeoutSeconds : UInt64
  /-- Seconds that an outcome stays in the window. -/
  windowSeconds : UInt64
  /-- The failing fraction of the window above which the breaker opens. -/
  rate : Float
  /-- Outcomes the window must hold before its failing fraction counts. -/
  minimumSamples : UInt32

/-- Why thresholds are not usable. -/
inductive ThresholdFault where
  /-- No failure count would be below the threshold. -/
  | noFailures
  /-- No probe would be needed. -/
  | noSuccesses
  /-- The window would be empty. -/
  | noWindow
  /-- The rate threshold is not a number above zero and at most one. -/
  | rate (value : Float)

/-- What is wrong with the thresholds, in words. -/
def ThresholdFault.message : ThresholdFault → String
  | noFailures => "failure_threshold must be at least 1"
  | noSuccesses => "success_threshold must be at least 1"
  | noWindow => "failure_window_seconds must be at least 1"
  | rate value => "failure_rate_threshold must be in (0, 1], got " ++ NumberStyle.plain.write value

namespace Thresholds

/-- The thresholds of a breaker for which nothing else was set. -/
def standard : Thresholds where
  failures := 5
  successes := 2
  timeoutSeconds := 60
  windowSeconds := 60
  rate := 0.5
  minimumSamples := 10

instance : Inhabited Thresholds := ⟨standard⟩

/-- How long an open breaker waits and how long a probe may stay out. -/
def timeout (thresholds : Thresholds) : Duration :=
  Duration.ofSeconds thresholds.timeoutSeconds.toNat

/-- How long an outcome stays in the window. -/
def horizon (thresholds : Thresholds) : Duration :=
  Duration.ofSeconds thresholds.windowSeconds.toNat

/-- Check the thresholds; the first fault counts. -/
def validate (thresholds : Thresholds) : Except ThresholdFault Unit :=
  if thresholds.failures = 0 then .error .noFailures
  else if thresholds.successes = 0 then .error .noSuccesses
  else if thresholds.windowSeconds = 0 then .error .noWindow
  else if thresholds.rate > 0.0 ∧ thresholds.rate ≤ 1.0 then .ok ()
  else .error (.rate thresholds.rate)

end Thresholds

end ProviderRouting
