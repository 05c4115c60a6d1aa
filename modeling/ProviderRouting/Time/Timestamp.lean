import ProviderRouting.Time.Duration

/-!
# Timestamps

A timestamp is a wall time with nanoseconds.  It may lie in a leap second, which belongs to the
second before it: timestamps are ordered by their seconds and then by their nanoseconds, and a leap
second counts in the difference of two of them.
-/

namespace ProviderRouting

/-- A wall time. -/
structure Timestamp where
  /-- Seconds since the start of 1970. -/
  seconds : Int
  /-- Nanoseconds since that second; from a billion on they belong to a leap second after it. -/
  nanoseconds : Nat
deriving DecidableEq, Inhabited

namespace Timestamp

/-- The timestamp a number of nanoseconds after the start of 1970, none of them in a leap second. -/
def ofNanoseconds (count : Int) : Timestamp :=
  ⟨count / Duration.perSecond, (count % Duration.perSecond).toNat⟩

/-- The nanoseconds from the start of 1970 to a timestamp; a leap second is taken for the second
that comes after it. -/
def toNanoseconds (time : Timestamp) : Int := time.seconds * Duration.perSecond + time.nanoseconds

instance : LE Timestamp where
  le left right := left.seconds < right.seconds ∨
    left.seconds = right.seconds ∧ left.nanoseconds ≤ right.nanoseconds

instance : LT Timestamp where
  lt left right := left.seconds < right.seconds ∨
    left.seconds = right.seconds ∧ left.nanoseconds < right.nanoseconds

instance (left right : Timestamp) : Decidable (left ≤ right) :=
  inferInstanceAs (Decidable (left.seconds < right.seconds ∨
    left.seconds = right.seconds ∧ left.nanoseconds ≤ right.nanoseconds))

instance (left right : Timestamp) : Decidable (left < right) :=
  inferInstanceAs (Decidable (left.seconds < right.seconds ∨
    left.seconds = right.seconds ∧ left.nanoseconds < right.nanoseconds))

/-- Whether a timestamp lies in a leap second. -/
def isLeap (time : Timestamp) : Bool := Duration.perSecond ≤ time.nanoseconds

/-- The second of the day. -/
def secondOfDay (time : Timestamp) : Int := time.seconds % 86400

/-- The nanoseconds from an earlier timestamp to a later one.  The leap second in which one of them
lies counts if the other one comes later in the day, on whichever day that is. -/
def since (later earlier : Timestamp) : Int :=
  let leapSeconds : Int :=
    if earlier.isLeap ∧ earlier.secondOfDay < later.secondOfDay then 1
    else if later.isLeap ∧ later.secondOfDay < earlier.secondOfDay then -1
    else 0
  later.toNanoseconds - earlier.toNanoseconds + leapSeconds * Duration.perSecond

/-- How long ago a timestamp was; nothing if it is still to come. -/
def age (time now : Timestamp) : Duration := (now.since time).toNat

/-- The timestamp a span after another one.  A leap second is taken for the second that comes after
it only as long as the span does not lead out of it. -/
def after (time : Timestamp) (duration : Duration) : Timestamp :=
  if time.isLeap then
    if time.nanoseconds + duration < 2 * Duration.perSecond then
      { time with nanoseconds := time.nanoseconds + duration }
    else ofNanoseconds (time.toNanoseconds + duration - Duration.perSecond)
  else ofNanoseconds (time.toNanoseconds + duration)

end Timestamp

end ProviderRouting
