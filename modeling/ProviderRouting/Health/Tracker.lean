import ProviderRouting.Health.Stats
import ProviderRouting.Table

/-!
# Health trackers

A tracker holds the statistics of every provider that was called.  One smoothing factor applies to
all of them.
-/

namespace ProviderRouting

/-- The statistics of all providers. -/
structure HealthTracker where
  /-- The statistics by provider. -/
  stats : Table HealthStats
  /-- The smoothing factor of providers tracked from now on. -/
  factor : Float
deriving Inhabited

namespace HealthTracker

/-- A tracker without statistics. -/
def ofFactor (factor : Float) : HealthTracker := ⟨.empty, clampFactor factor⟩

/-- The statistics of a provider, if it is tracked. -/
def get? (tracker : HealthTracker) (provider : String) : Option HealthStats :=
  tracker.stats.get? provider

/-- The statistics of a provider, fresh ones if it is not tracked. -/
def getOrFresh (tracker : HealthTracker) (provider : String) : HealthStats :=
  (tracker.get? provider).getD (.fresh tracker.factor)

/-- Track a provider without recording anything. -/
def touch (provider : String) (tracker : HealthTracker) : HealthTracker :=
  { tracker with stats := tracker.stats.insert provider (tracker.getOrFresh provider) }

/-- Record one call. -/
def record (provider : String) (succeeded : Bool) (latency : Duration) (tracker : HealthTracker) :
    HealthTracker :=
  let next := (tracker.getOrFresh provider).record succeeded latency
  { tracker with stats := tracker.stats.insert provider next }

/-- Change the smoothing factor of every provider, tracked or not. -/
def setFactor (factor : Float) (tracker : HealthTracker) : HealthTracker where
  stats := tracker.stats.map fun _ stats => stats.setFactor factor
  factor := clampFactor factor

/-- What a provider shows; one that is not tracked shows neutral statistics. -/
def snapshot (tracker : HealthTracker) (provider : String) : HealthSnapshot :=
  match tracker.get? provider with
  | some stats => stats.snapshot provider
  | none => .unknown provider

/-- What every tracked provider shows, by name. -/
def snapshots (tracker : HealthTracker) : List HealthSnapshot :=
  tracker.stats.entries.map fun entry => entry.2.snapshot entry.1

end HealthTracker

end ProviderRouting
