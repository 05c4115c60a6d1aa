import ProviderRouting.Time.Duration

/-!
# Written durations

A duration is written in the largest of the units seconds, milliseconds, microseconds and
nanoseconds of which it holds at least one, with as many decimals as it needs.
-/

namespace ProviderRouting.Duration

/-- The units with their length in nanoseconds and their number of decimals. -/
def units : List (Nat × Nat × String) :=
  [(1000000000, 9, "s"), (1000000, 6, "ms"), (1000, 3, "µs")]

/-- A count of units and the decimals of the rest. -/
def writeIn (duration length decimals : Nat) (unit : String) : String :=
  let digits := Nat.toDigits 10 (duration % length)
  let padded := List.replicate (decimals - digits.length) '0' ++ digits
  let fraction := (padded.reverse.dropWhile (· == '0')).reverse
  toString (duration / length)
    ++ (if fraction.isEmpty then "" else "." ++ String.ofList fraction) ++ unit

/-- The text of a duration. -/
def write (duration : Duration) : String :=
  match units.find? fun unit => unit.1 ≤ duration with
  | some (length, decimals, unit) => writeIn duration length decimals unit
  | none => toString duration ++ "ns"

end ProviderRouting.Duration
