/-!
# Spans of time

A span of time is a number of nanoseconds.
-/

namespace ProviderRouting

/-- A span of time in nanoseconds. -/
abbrev Duration := Nat

namespace Duration

/-- Nanoseconds in a second. -/
def perSecond : Nat := 1000000000

/-- A span of whole seconds. -/
def ofSeconds (seconds : Nat) : Duration := seconds * perSecond

/-- The span in seconds as a double: the whole seconds plus the remaining nanoseconds over a
billion, each converted on its own. -/
def toSeconds (duration : Duration) : Float :=
  (duration / perSecond).toUInt64.toFloat + (duration % perSecond).toUInt64.toFloat / 1000000000.0

/-- The span in milliseconds as a double. -/
def toMilliseconds (duration : Duration) : Float := duration.toSeconds * 1000.0

end Duration

/-- The time from an earlier instant to a later one; zero if the later one is not later. -/
def elapsedSince (now earlier : Int) : Duration := (now - earlier).toNat

/-- A span has passed since an earlier instant when the instants are that far apart. -/
theorem le_elapsedSince_iff {now earlier : Int} (span : Duration) (passed : earlier ≤ now) :
    span ≤ elapsedSince now earlier ↔ (span : Int) ≤ now - earlier := by
  have apart : (elapsedSince now earlier : Int) = now - earlier :=
    Int.toNat_of_nonneg (Int.sub_nonneg_of_le passed)
  rw [← apart]
  exact Int.ofNat_le.symm

end ProviderRouting
