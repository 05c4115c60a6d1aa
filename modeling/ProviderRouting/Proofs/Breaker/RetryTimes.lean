import Mathlib.Order.Bounds.Basic
import ProviderRouting.Proofs.Breaker.Admission
import ProviderRouting.Proofs.Breaker.Integrity

/-!
# Retry times

An open breaker shows after how many seconds it admits a call.  The time that is left is cut to
whole milliseconds before it is rounded up to seconds.  What is shown is therefore the time left,
rounded up, unless that exceeds whole seconds by less than a millisecond: then it is a second less,
and a call that waits as long as shown comes too early.
-/

namespace ProviderRouting

open Breaker (Operation)

/-- Waiting adds to the time that has passed. -/
theorem elapsedSince_add {now earlier : Int} (passed : earlier ≤ now) (waited : Duration) :
    elapsedSince (now + waited) earlier = waited + elapsedSince now earlier := by
  have apart : now + waited - earlier = waited + (now - earlier) := by omega
  rw [elapsedSince, apart, Int.toNat_add (Int.natCast_nonneg waited) (Int.sub_nonneg_of_le passed),
    Int.toNat_natCast]
  rfl

namespace Duration

/-- Nanoseconds in a millisecond. -/
def perMillisecond : Nat := 1000000

/-- A span exceeds whole seconds, by less than a millisecond. -/
def Overhangs (span : Duration) : Prop :=
  0 < span % perSecond ∧ span % perSecond < perMillisecond

instance (span : Duration) : Decidable span.Overhangs := inferInstanceAs (Decidable (_ ∧ _))

theorem isLeast_covering_of (span shown : Nat) (enough : span ≤ shown * perSecond)
    (few : shown * perSecond < span + perSecond) :
    IsLeast {seconds | span ≤ ofSeconds seconds} shown := by
  refine ⟨enough, fun seconds covers => ?_⟩
  have less : shown * perSecond < (seconds + 1) * perSecond := by
    rw [Nat.succ_mul]
    exact Nat.lt_of_lt_of_le few (Nat.add_le_add_right covers perSecond)
  exact Nat.le_of_lt_succ (Nat.lt_of_mul_lt_mul_right less)

/-- The seconds shown for a span are the ones that cover it, less one if it overhangs. -/
theorem isLeast_covering (span : Nat) :
    IsLeast {seconds | span ≤ ofSeconds seconds}
      ((span / 1000000 + 999) / 1000 + if Overhangs span then 1 else 0) := by
  have overhangs_iff : Overhangs span ↔ 0 < span % 1000000000 ∧ span % 1000000000 < 1000000 :=
    Iff.rfl
  refine isLeast_covering_of span _ ?_ ?_
  · simp only [overhangs_iff, perSecond]
    split_ifs <;> omega
  · simp only [overhangs_iff, perSecond]
    split_ifs <;> omega

end Duration

namespace Breaker

variable {moment : Moment} {breaker : Breaker} {opening : Int}

theorem allow_granted_of_opened (opened : breaker.phase = .opened)
    (openedAt : breaker.openedAt = some opening) :
    (breaker.allow moment).granted = true ↔
      breaker.thresholds.timeout ≤ elapsedSince moment.instant opening := by
  have due : breaker.due moment.instant = true ↔
      breaker.thresholds.timeout ≤ elapsedSince moment.instant opening := by
    simp only [Breaker.due, openedAt, decide_eq_true_eq]
  rw [← due]
  simp only [allow, opened]
  split
  · rename_i late
    exact iff_of_true rfl late
  · rename_i early
    exact iff_of_false Bool.false_ne_true early

/-- A call that waits is admitted exactly when it waits as long as is left. -/
theorem allow_granted_after_iff (opened : breaker.phase = .opened)
    (openedAt : breaker.openedAt = some opening) (passed : opening ≤ moment.instant)
    (waited : Duration) (wall : Timestamp) :
    (breaker.allow ⟨moment.instant + waited, wall⟩).granted = true ↔
      breaker.remaining moment.instant opening ≤ waited := by
  rw [allow_granted_of_opened opened openedAt, elapsedSince_add passed]
  exact Nat.sub_le_iff_le_add.symm

theorem secondsUntilRetry_snapshot (opened : breaker.phase = .opened)
    (openedAt : breaker.openedAt = some opening) (provider : String) :
    (breaker.snapshot provider moment).2.secondsUntilRetry =
      some ((breaker.remaining moment.instant opening / 1000000 + 999) / 1000) := by
  change (breaker.prune moment).secondsUntilRetry moment.instant = _
  have opened : (breaker.prune moment).phase = .opened := opened
  have openedAt : (breaker.prune moment).openedAt = some opening := openedAt
  simp only [secondsUntilRetry, opened, openedAt]
  rfl

end Breaker

namespace Course

variable {course : Course}

/-- An open breaker knows from when its opening counts, and that is past. -/
def Dated (course : Course) : Prop :=
  course.breaker.phase = .opened →
    ∃ opening, course.breaker.openedAt = some opening ∧ opening ≤ course.moment.instant

theorem Dated.perform (dated : course.Dated) (operation : Operation) :
    (course.next (.perform operation)).Dated := by
  intro opens
  by_cases opened : course.breaker.phase = .opened
  · obtain ⟨opening, openedAt, passed⟩ := dated opened
    exact ⟨opening, (Breaker.openedAt_of_stays_opened opened opens).trans openedAt, passed⟩
  · exact ⟨_, Breaker.openedAt_of_opens opened opens, openingInstant_le operation course.moment⟩

theorem dated_runRevised (thresholds : Thresholds) (moment : Moment) (steps : List RevisedStep) :
    (runRevised thresholds moment steps).Dated := by
  induction steps using List.reverseRecOn with
  | nil => exact fun opened => absurd opened nofun
  | append_singleton steps step ih =>
      rw [runRevised, List.foldl_append]
      cases step with
      | revise thresholds => exact ih
      | take step =>
          cases step with
          | perform operation => exact ih.perform operation
          | pass duration wall =>
              intro opened
              obtain ⟨opening, openedAt, passed⟩ := ih opened
              exact ⟨opening, openedAt,
                Int.le_trans passed (Int.le_add_of_nonneg_right (Int.natCast_nonneg duration))⟩

/-! ## The law of retry times -/

/-- A call that waits is admitted exactly when it waits that long. -/
def Awaits (course : Course) (left : Duration) : Prop :=
  ∀ waited wall, ((course.next (.pass waited wall)).outcome .allow).granted = true ↔ left ≤ waited

theorem Dated.exists_awaits (dated : course.Dated) (opened : course.breaker.phase = .opened) :
    ∃ left, course.Awaits left ∧
      ((course.outcome .allow).granted = true ↔ left = 0) ∧
      ∀ provider, (course.breaker.snapshot provider course.moment).2.secondsUntilRetry =
        some ((left / 1000000 + 999) / 1000) := by
  obtain ⟨opening, openedAt, passed⟩ := dated opened
  refine ⟨course.breaker.remaining course.moment.instant opening, ?_, ?_, ?_⟩
  · exact Breaker.allow_granted_after_iff opened openedAt passed
  · exact (Breaker.allow_granted_of_opened opened openedAt).trans Nat.sub_eq_zero_iff_le.symm
  · exact Breaker.secondsUntilRetry_snapshot opened openedAt

/-- Whatever was done with a breaker and whatever thresholds it was given: while it is open there is
a time that a call has still to wait, and a snapshot shows it in seconds.  If that time does not
exceed whole seconds by less than a millisecond, it is rounded up, zero is shown exactly if a call
would be admitted at once, and a call that waits as long as shown is admitted.  Otherwise a second
less is shown: a call is rejected at once, and also when it waits as long as shown. -/
theorem retry_law (thresholds : Thresholds) (moment : Moment) (steps : List RevisedStep) :
    let course := runRevised thresholds moment steps
    let covering (left : Duration) : Set Nat := {seconds | left ≤ Duration.ofSeconds seconds}
    course.breaker.phase = .opened →
      ∃ left shown, course.Awaits left ∧
        (∀ provider, (course.breaker.snapshot provider course.moment).2.secondsUntilRetry =
          some shown) ∧
        (¬left.Overhangs → IsLeast (covering left) shown ∧
          (shown = 0 ↔ (course.outcome .allow).granted = true) ∧
          ∀ wall, ((course.next (.pass (.ofSeconds shown) wall)).outcome .allow).granted = true) ∧
        (left.Overhangs → IsLeast (covering left) (shown + 1) ∧
          (course.outcome .allow).granted = false ∧
          ∀ wall, ((course.next (.pass (.ofSeconds shown) wall)).outcome .allow).granted =
            false) := by
  intro course covering opened
  obtain ⟨left, awaits, now, shows⟩ :=
    (dated_runRevised thresholds moment steps).exists_awaits opened
  have least := Duration.isLeast_covering left
  refine ⟨left, _, awaits, shows, fun fits => ?_, fun overhangs => ?_⟩
  · rw [if_neg fits, Nat.add_zero] at least
    refine ⟨least, ?_, fun wall => (awaits _ wall).mpr least.1⟩
    rw [now]
    constructor
    · intro none
      have covered := least.1
      rw [none] at covered
      exact Nat.le_zero.mp covered
    · rintro rfl
      rfl
  · rw [if_pos overhangs] at least
    have short : ¬left ≤ Duration.ofSeconds ((left / 1000000 + 999) / 1000) :=
      fun covers => Nat.not_succ_le_self _ (least.2 covers)
    refine ⟨least, Bool.eq_false_iff.mpr fun granted => ?_, fun wall => ?_⟩
    · rw [now.mp granted] at short
      exact short (Nat.zero_le _)
    · exact Bool.eq_false_iff.mpr (mt (awaits _ wall).mp short)

/-- Half a minute after a failure has opened a breaker, a call that waits for the thirty seconds
that are shown is admitted. -/
theorem retry_law_half_minute :
    let half : Duration := .ofSeconds 30
    let course := runRevised { Thresholds.standard with failures := 1 } Clock.start.moment
      [.take (.perform .failure), .take (.pass half (.ofNanoseconds half))]
    course.breaker.phase = .opened ∧
      (course.breaker.snapshot "p" course.moment).2.secondsUntilRetry = some 30 ∧
      ∀ wall, ((course.next (.pass half wall)).outcome .allow).granted = true := by
  intro half course
  have opened : course.breaker.phase = .opened := by decide
  have thirty : (course.breaker.snapshot "p" course.moment).2.secondsUntilRetry = some 30 := by
    decide
  obtain ⟨left, shown, awaits, shows, fits, overhangs⟩ := retry_law _ _ _ opened
  obtain rfl : shown = 30 := Option.some.inj ((shows "p").symm.trans thirty)
  have enough : left ≤ half := (awaits half (.ofNanoseconds half)).mp (by decide)
  refine ⟨opened, thirty, (fits fun exceeds => ?_).2.2⟩
  exact absurd ((overhangs exceeds).1.2 enough) (by decide)

/-- A nanosecond before its timeout has passed an open breaker shows that no time is left, and a
second earlier that one second is; but the call at that nanosecond is rejected. -/
theorem retry_shown_too_early :
    let after (wait : Duration) : Course :=
      run { Thresholds.standard with failures := 1 } Clock.start.moment
        [.perform .failure, .pass wait (.ofNanoseconds wait)]
    let shown (course : Course) : Option Nat :=
      (course.breaker.snapshot "p" course.moment).2.secondsUntilRetry
    let soon : Duration := .ofSeconds 60 - 1
    shown (after (soon - .ofSeconds 1)) = some 1 ∧ shown (after soon) = some 0 ∧
      ((after soon).outcome .allow).granted = false := by
  decide

end Course

end ProviderRouting
