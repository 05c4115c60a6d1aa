import ProviderRouting.Number.Binary64
import ProviderRouting.Time.Duration

/-!
# Outcome windows

A window holds the latest outcomes of a provider, oldest first.  It never holds more than
`Window.capacity` outcomes, and pruning drops from its old end what is older than the horizon.
-/

namespace ProviderRouting

/-- One recorded outcome. -/
structure Sample where
  /-- When it was recorded, on the monotonic reading. -/
  instant : Int
  /-- Whether the call succeeded. -/
  succeeded : Bool
deriving DecidableEq

/-- The latest outcomes, oldest first. -/
structure Window where
  /-- The outcomes. -/
  samples : List Sample
deriving DecidableEq, Inhabited

namespace Window

/-- The most outcomes that a window holds. -/
def capacity : Nat := 10000

/-- The window without outcomes. -/
def empty : Window := ⟨[]⟩

/-- The number of outcomes. -/
def size (window : Window) : Nat := window.samples.length

/-- Drop the outcomes at the old end that are older than the horizon. -/
def prune (horizon : Duration) (now : Int) (window : Window) : Window :=
  ⟨window.samples.dropWhile fun sample => horizon < elapsedSince now sample.instant⟩

/-- Add the newest outcome; a full window loses its oldest one. -/
def push (sample : Sample) (window : Window) : Window :=
  let samples := window.samples ++ [sample]
  ⟨if capacity < samples.length then samples.tail else samples⟩

/-- Record an outcome and prune. -/
def record (horizon : Duration) (now : Int) (succeeded : Bool) (window : Window) : Window :=
  (window.push ⟨now, succeeded⟩).prune horizon now

/-- The number of failed outcomes. -/
def failures (window : Window) : Nat := window.samples.countP fun sample => !sample.succeeded

/-- The failing fraction, zero for an empty window. -/
def failureRate (window : Window) : Float :=
  if window.samples.isEmpty then 0.0
  else Binary64.ofNat window.failures / Binary64.ofNat window.size

end Window

end ProviderRouting
