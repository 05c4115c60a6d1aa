import ProviderRouting.Time.Timestamp

/-!
# Clocks

Time comes in two readings: a monotonic instant, on which timeouts and windows are measured, and a
wall time, with which events are stamped.  The instant counts nanoseconds from the moment the clock
was made.  A clock moves only when it is advanced, and its wall never shows a leap second.
-/

namespace ProviderRouting

/-- The two readings of a clock at one moment. -/
structure Moment where
  /-- The monotonic reading, in nanoseconds. -/
  instant : Int
  /-- The wall-clock reading. -/
  wall : Timestamp
deriving DecidableEq, Inhabited

/-- A clock that moves only when it is advanced. -/
structure Clock where
  /-- The wall time at which the clock was made, in nanoseconds since the start of 1970. -/
  base : Int
  /-- The total time by which the clock was advanced. -/
  elapsed : Duration
deriving DecidableEq, Inhabited

namespace Clock

/-- A clock that was made at the start of 1970 and never advanced. -/
def start : Clock := ⟨0, 0⟩

/-- Move a clock forward. -/
def advance (clock : Clock) (duration : Duration) : Clock :=
  { clock with elapsed := clock.elapsed + duration }

/-- The largest offset that wall time can hold: a signed 64-bit count of milliseconds. -/
def wallLimit : Duration := (UInt64.size / 2 - 1) * 1000000

/-- What a clock shows.  An offset too large for wall time leaves the wall at its base. -/
def moment (clock : Clock) : Moment where
  instant := clock.elapsed
  wall := .ofNanoseconds
    (if clock.elapsed ≤ wallLimit then clock.base + clock.elapsed else clock.base)

end Clock

end ProviderRouting
