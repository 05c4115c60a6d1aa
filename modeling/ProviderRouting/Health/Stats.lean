import ProviderRouting.Number.Notation
import ProviderRouting.Text.Inspected
import ProviderRouting.Time.DurationText

/-!
# Health statistics of one provider

Success and latency are smoothed by exponential moving averages.  The success rate is kept in
ten-thousandths and the latency in whole microseconds; the first sample of each is taken as it is.
-/

namespace ProviderRouting

/-- Bring a smoothing factor between the smallest useful one and one.  What is not a number stays
as it is. -/
def clampFactor (factor : Float) : Float := Binary64.clamp factor Binary64.epsilon 1.0

/-- The smoothing factor used when none is set. -/
def standardFactor : Float := 0.3

/-- Smoothed success and latency of one provider. -/
structure HealthStats where
  /-- The weight of a new sample. -/
  factor : Float
  /-- The success rate in ten-thousandths. -/
  rate : Nat
  /-- The latency in microseconds. -/
  latency : Nat
  /-- The number of samples. -/
  samples : Nat
  /-- The number of successful samples. -/
  successes : Nat
  /-- The number of failed samples. -/
  failures : Nat
deriving Inhabited

/-- What the statistics of a provider show. -/
structure HealthSnapshot where
  /-- The provider. -/
  provider : String
  /-- The smoothed success rate. -/
  successRate : Float
  /-- The smoothed latency in milliseconds. -/
  latencyMilliseconds : Float
  /-- The number of samples. -/
  samples : Nat
  /-- The number of successful samples. -/
  successes : Nat
  /-- The number of failed samples. -/
  failures : Nat

namespace HealthStats

/-- The success rate is kept in this many parts. -/
def rateScale : Float := 10000.0

/-- Statistics without samples: full success and no latency. -/
def fresh (factor : Float) : HealthStats where
  factor := clampFactor factor
  rate := 10000
  latency := 0
  samples := 0
  successes := 0
  failures := 0

/-- Change the smoothing factor for later samples. -/
def setFactor (factor : Float) (stats : HealthStats) : HealthStats :=
  { stats with factor := clampFactor factor }

/-- The smoothed success rate. -/
def successRate (stats : HealthStats) : Float := Binary64.ofNat stats.rate / rateScale

/-- The smoothed latency. -/
def averageLatency (stats : HealthStats) : Duration := stats.latency * 1000

/-- The average of an old value and a new one. -/
def smooth (factor sample current : Float) : Float := factor * sample + (1.0 - factor) * current

/-- The success rate after a sample, in ten-thousandths of a 32-bit word. -/
def nextRate (stats : HealthStats) (succeeded : Bool) : Nat :=
  let sample := if succeeded then 1.0 else 0.0
  let next := if stats.samples = 0 then sample else smooth stats.factor sample stats.successRate
  min (Binary64.round (next * rateScale)) (UInt32.size - 1)

/-- The latency after a sample, in microseconds of a 64-bit word. -/
def nextLatency (stats : HealthStats) (latency : Duration) : Nat :=
  let sample := min (latency / 1000) (UInt64.size - 1)
  if stats.samples = 0 then sample
  else
    let next := smooth stats.factor (Binary64.ofNat sample) (Binary64.ofNat stats.latency)
    next.toUInt64.toNat

/-- Record one call. -/
def record (succeeded : Bool) (latency : Duration) (stats : HealthStats) : HealthStats :=
  { stats with
    rate := stats.nextRate succeeded
    latency := stats.nextLatency latency
    samples := stats.samples + 1
    successes := stats.successes + succeeded.toNat
    failures := stats.failures + (!succeeded).toNat }

/-- What the statistics show. -/
def snapshot (provider : String) (stats : HealthStats) : HealthSnapshot where
  provider := provider
  successRate := stats.successRate
  latencyMilliseconds := stats.averageLatency.toMilliseconds
  samples := stats.samples
  successes := stats.successes
  failures := stats.failures

/-- The inspection text of the statistics. -/
def inspect (provider : String) (stats : HealthStats) : String :=
  "ProviderHealthStats \x7b provider: " ++ Text.inspect provider
    ++ ", success_rate: " ++ NumberStyle.inspect.write stats.successRate
    ++ ", avg_latency: " ++ stats.averageLatency.write
    ++ ", samples: " ++ toString stats.samples ++ " \x7d"

end HealthStats

namespace HealthSnapshot

/-- What a provider without statistics shows. -/
def unknown (provider : String) : HealthSnapshot where
  provider := provider
  successRate := 1.0
  latencyMilliseconds := 0.0
  samples := 0
  successes := 0
  failures := 0

/-- Whether a provider with samples succeeds too rarely or answers too slowly. -/
def isDegraded (snapshot : HealthSnapshot) (minimumRate maximumLatency : Float) : Bool :=
  0 < snapshot.samples
    && (snapshot.successRate < minimumRate || snapshot.latencyMilliseconds > maximumLatency)

end HealthSnapshot

end ProviderRouting
