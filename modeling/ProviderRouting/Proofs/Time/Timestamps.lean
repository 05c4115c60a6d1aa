import Mathlib.Order.Lattice
import ProviderRouting.Time.Timestamp

/-!
# The order and the differences of timestamps

The order of timestamps is linear.  A clock shows a number of nanoseconds and no leap second: its
readings are ordered, and lie apart, as the numbers are.  How long ago a timestamp was is told by
the number of nanoseconds unless it lies in a leap second.  That counts as one second more when the
time of day is later, and is taken for the second after it when it is not, as on the next day.
-/

namespace ProviderRouting.Timestamp

theorem le_iff {left right : Timestamp} :
    left ≤ right ↔ left.seconds < right.seconds ∨
      left.seconds = right.seconds ∧ left.nanoseconds ≤ right.nanoseconds := Iff.rfl

theorem lt_iff {left right : Timestamp} :
    left < right ↔ left.seconds < right.seconds ∨
      left.seconds = right.seconds ∧ left.nanoseconds < right.nanoseconds := Iff.rfl

instance : LinearOrder Timestamp where
  le_refl _ := .inr ⟨rfl, Nat.le_refl _⟩
  le_trans first second third before after := by
    simp only [le_iff] at *
    omega
  le_antisymm first second before after := by
    obtain ⟨seconds, nanoseconds⟩ := first
    obtain ⟨otherSeconds, otherNanoseconds⟩ := second
    simp only [le_iff, mk.injEq] at *
    omega
  le_total first second := by
    simp only [le_iff]
    omega
  lt_iff_le_not_ge first second := by
    simp only [le_iff, lt_iff]
    omega
  toDecidableLE := inferInstance

/-! ## Readings of a clock -/

variable {time clock : Timestamp}

theorem isLeap_iff : time.isLeap ↔ 1000000000 ≤ time.nanoseconds := decide_eq_true_iff

theorem isLeap_eq_false_iff : time.isLeap = false ↔ time.nanoseconds < 1000000000 := by
  rw [← Bool.not_eq_true, isLeap_iff, Nat.not_le]

theorem isLeap_ofNanoseconds (count : Int) : (ofNanoseconds count).isLeap = false := by
  rw [isLeap_eq_false_iff]
  simp only [ofNanoseconds, Duration.perSecond]
  omega

theorem toNanoseconds_eq (time : Timestamp) :
    time.toNanoseconds = time.seconds * 1000000000 + time.nanoseconds := rfl

theorem toNanoseconds_ofNanoseconds (count : Int) :
    (ofNanoseconds count).toNanoseconds = count := by
  simp only [ofNanoseconds, toNanoseconds, Duration.perSecond]
  omega

theorem ofNanoseconds_toNanoseconds (ordinary : time.isLeap = false) :
    ofNanoseconds time.toNanoseconds = time := by
  rw [isLeap_eq_false_iff] at ordinary
  obtain ⟨seconds, nanoseconds⟩ := time
  simp only [ofNanoseconds, toNanoseconds, Duration.perSecond, mk.injEq] at *
  omega

theorem ofNanoseconds_lt_iff {left right : Int} :
    ofNanoseconds left < ofNanoseconds right ↔ left < right := by
  simp only [lt_iff, ofNanoseconds, Duration.perSecond]
  omega

theorem after_of_not_isLeap (ordinary : time.isLeap = false) (span : Duration) :
    time.after span = ofNanoseconds (time.toNanoseconds + span) := by
  simp [after, ordinary]

theorem after_ofNanoseconds (count : Int) (span : Duration) :
    (ofNanoseconds count).after span = ofNanoseconds (count + span) := by
  rw [after_of_not_isLeap (isLeap_ofNanoseconds count), toNanoseconds_ofNanoseconds]

theorem le_after (time : Timestamp) (span : Duration) : time ≤ time.after span := by
  unfold after
  split_ifs with leap inside
  · exact .inr ⟨rfl, Nat.le_add_right _ _⟩
  · rw [isLeap_iff] at leap
    simp only [le_iff, ofNanoseconds, toNanoseconds, Duration.perSecond] at *
    omega
  · simp only [le_iff, ofNanoseconds, toNanoseconds, Duration.perSecond] at *
    omega

/-! ## Ages -/

/-- A clock counts the leap second in which a timestamp lies if it shows a later time of day. -/
theorem since_of_not_isLeap (shown : clock.isLeap = false) (time : Timestamp) :
    clock.since time = clock.toNanoseconds - time.toNanoseconds +
      if time.isLeap ∧ time.secondOfDay < clock.secondOfDay then 1000000000 else 0 := by
  simp only [since, shown, Bool.false_eq_true, false_and, if_false]
  split_ifs <;> rfl

/-- A leap second is no longer than a second. -/
def Proper (time : Timestamp) : Prop := time.nanoseconds < 2 * Duration.perSecond

theorem proper_of_not_isLeap (ordinary : time.isLeap = false) : time.Proper := by
  rw [isLeap_eq_false_iff] at ordinary
  simp only [Proper, Duration.perSecond]
  omega

/-- A timestamp as its difference to a clock takes it: a leap second is the second that comes after
it, unless the clock counts it. -/
def seenBy (time clock : Timestamp) : Timestamp :=
  if time.isLeap ∧ ¬time.secondOfDay < clock.secondOfDay then ofNanoseconds time.toNanoseconds
  else time

theorem seenBy_of_not_isLeap (ordinary : time.isLeap = false) (clock : Timestamp) :
    time.seenBy clock = time := by
  simp [seenBy, ordinary]

/-- Either a clock counts the leap second in which a timestamp lies, or the nanoseconds tell how old
it is. -/
theorem seenBy_cases (shown : clock.isLeap = false) (time : Timestamp) :
    (time.isLeap = true ∧ time.secondOfDay < clock.secondOfDay ∧ time.seenBy clock = time ∧
      time.age clock = (clock.toNanoseconds - time.toNanoseconds + 1000000000).toNat) ∨
    (time.seenBy clock = ofNanoseconds time.toNanoseconds ∧
      time.age clock = (clock.toNanoseconds - time.toNanoseconds).toNat) := by
  rw [age, since_of_not_isLeap shown, seenBy]
  cases leap : time.isLeap with
  | false => simp [ofNanoseconds_toNanoseconds leap]
  | true =>
      by_cases earlier : time.secondOfDay < clock.secondOfDay
      · simp [earlier]
      · simp [earlier]

/-- What is still to come is not old. -/
theorem age_of_le (shown : clock.isLeap = false) (future : clock ≤ time.seenBy clock) :
    time.age clock = 0 := by
  obtain ⟨leap, earlier, seen, age⟩ | ⟨seen, age⟩ := seenBy_cases shown time
  · rw [seen, le_iff] at future
    rw [isLeap_eq_false_iff] at shown
    rw [isLeap_iff] at leap
    rw [age, Int.toNat_eq_zero]
    simp only [secondOfDay, toNanoseconds_eq] at *
    omega
  · rw [seen, ← ofNanoseconds_toNanoseconds shown, ← not_lt, ofNanoseconds_lt_iff] at future
    rw [age, Int.toNat_eq_zero]
    omega

/-- What is left of a span that began at a timestamp in the past is what its age lacks. -/
theorem after_eq_of_age {span : Duration} (shown : clock.isLeap = false) (proper : time.Proper)
    (past : time.seenBy clock ≤ clock) (young : time.age clock < span) :
    (time.seenBy clock).after span =
      ofNanoseconds (clock.toNanoseconds + span - time.age clock) := by
  obtain ⟨leap, earlier, seen, age⟩ | ⟨seen, age⟩ := seenBy_cases shown time
  · rw [seen, le_iff] at past
    have young : ((time.age clock : Nat) : Int) < span := Int.ofNat_lt.mpr young
    rw [isLeap_eq_false_iff] at shown
    have late := isLeap_iff.mp leap
    rw [age] at young
    simp only [Proper, secondOfDay, toNanoseconds_eq, Duration.perSecond] at *
    -- the span leads out of the leap second, since the clock shows a later second
    have escapes : ¬time.nanoseconds + span < 2 * Duration.perSecond := by
      simp only [Duration.perSecond]
      omega
    rw [seen, after, if_pos leap, if_neg escapes, age]
    simp only [toNanoseconds_eq, Duration.perSecond]
    congr 1
    omega
  · rw [seen, ← ofNanoseconds_toNanoseconds shown, ← not_lt, ofNanoseconds_lt_iff] at past
    rw [seen, after_ofNanoseconds, age]
    congr 1
    omega

end ProviderRouting.Timestamp
