import Mathlib.Tactic.Common
import ProviderRouting.Proofs.Breaker.Traffic

/-!
# How a stay in half-open ends

A stay in half-open is resolved by the first of four things: as many successes within it as the
threshold demands, a failure, an opening adopted from elsewhere, or a reset.  Nothing else moves the
breaker, and what was counted in an earlier stay does not matter.  A failure begins a new wait of
the full timeout.
-/

namespace ProviderRouting

open Breaker (Operation)

/-- How many successes were recorded among some entries. -/
def successesIn (entries : List CourseEntry) : Nat := entries.countP (·.operation = .success)

theorem successesIn_append (entries : List CourseEntry) (newest : CourseEntry) :
    successesIn (entries ++ [newest]) =
      successesIn entries + if newest.operation = .success then 1 else 0 := by
  simp [successesIn, List.countP_append, List.countP_singleton]

/-- Where an operation leads from half-open, after `since` has happened in the stay. -/
def resolve (thresholds : Thresholds) (since : List CourseEntry) (operation : Operation)
    (granted : Bool) : Phase :=
  match operation with
  | .success =>
    if successesIn since + 1 = max 1 thresholds.successes.toNat then .closed else .halfOpen
  | .failure => .opened
  | .adopt _ => if granted then .opened else .halfOpen
  | .reset => .closed
  | .allow | .bypass _ | .snapshot => .halfOpen

namespace Breaker

variable {moment : Moment} {breaker : Breaker} {operation : Operation}

/-- Nothing is left of the past of a breaker that a success has closed. -/
structure Cleared (breaker : Breaker) : Prop where
  failures : breaker.failures = 0
  successes : breaker.successes = 0
  window : breaker.window = .empty
  openedAt : breaker.openedAt = none
  shown : ∀ provider moment, (breaker.view provider moment).openedAt = none

theorem cleared_enter_closed (moment : Moment) (breaker : Breaker) :
    (breaker.enter .closed moment).Cleared := by
  constructor <;> intros <;> rfl

/-- Every way into closed from half-open clears the breaker. -/
theorem cleared_of_closes (inside : breaker.phase = .halfOpen)
    (closes : (breaker.apply operation moment).breaker.phase = .closed) :
    (breaker.apply operation moment).breaker.Cleared := by
  rcases closes_of_halfOpen inside closes with rfl | ⟨rfl, enough⟩
  · simp only [apply, reset, inside]
    constructor <;> intros <;> rfl
  · simp only [apply, recordSuccess, inside, if_pos enough]
    exact cleared_enter_closed moment _

/-- The phase to which an operation leads from half-open, by the counter of the breaker. -/
theorem apply_of_halfOpen (inside : breaker.phase = .halfOpen) {since : List CourseEntry}
    (counted : breaker.successes = successesIn since)
    (few : successesIn since < max 1 breaker.thresholds.successes.toNat) :
    (breaker.apply operation moment).breaker.phase =
      resolve breaker.thresholds since operation (breaker.apply operation moment).granted := by
  cases operation with
  | allow =>
      simp only [apply, allow, inside, resolve]
      split <;> simp [reject, keep, admitProbe, inside]
  | success =>
      have decided := congrArg Prod.fst (standing_of_halfOpen inside true moment)
      refine Eq.trans decided ?_
      simp only [resolve, if_true, counted]
      have last : breaker.thresholds.successes.toNat ≤ successesIn since + 1 ↔
          successesIn since + 1 = max 1 breaker.thresholds.successes.toNat := by omega
      simp only [last]
      split <;> rfl
  | failure => exact congrArg Prod.fst (standing_of_halfOpen inside false moment)
  | bypass succeeded => exact inside
  | snapshot => exact inside
  | adopt openedWall =>
      rcases adopt_cases openedWall moment breaker with refused | ⟨-, adopted⟩
      · simp [apply, refused, resolve, inside]
      · simp [apply, adopted, resolve, switch]
  | reset => simp [apply, reset, resolve, inside, fresh]

end Breaker

namespace Course

variable {thresholds : Thresholds} {moment : Moment} {course : Course}

/-- While a breaker is half-open it has counted the successes of its stay, and none of what
happened in the stay has resolved it. -/
structure Unresolved (thresholds : Thresholds) (course : Course) (since : List CourseEntry) :
    Prop where
  counted : course.breaker.successes = successesIn since
  few : successesIn since < max 1 thresholds.successes.toNat
  none : ∀ earlier entry later, since = earlier ++ entry :: later →
    resolve thresholds earlier entry.operation entry.granted = .halfOpen

/-- The present stay in half-open is not resolved. -/
structure Pending (thresholds : Thresholds) (course : Course) : Prop where
  fixed : course.breaker.thresholds = thresholds
  halfOpen : course.breaker.phase = .halfOpen →
    ∃ first since, Stay .halfOpen course.history first since ∧
      course.Unresolved thresholds since

theorem Unresolved.perform {since : List CourseEntry}
    (unresolved : course.Unresolved thresholds since)
    (fixed : course.breaker.thresholds = thresholds) (inside : course.breaker.phase = .halfOpen)
    {operation : Operation} (stays : (course.outcome operation).breaker.phase = .halfOpen) :
    (course.next (.perform operation)).Unresolved thresholds
      (since ++ [course.entry operation]) := by
  have counted : (course.outcome operation).breaker.successes =
      course.breaker.successes + if operation = .success then 1 else 0 :=
    Breaker.successes_of_stays_halfOpen inside stays
  have verdict : resolve thresholds since operation (course.outcome operation).granted =
      .halfOpen := by
    rw [← stays, ← fixed]
    exact (Breaker.apply_of_halfOpen inside unresolved.counted (fixed ▸ unresolved.few)).symm
  have few := unresolved.few
  constructor
  · rw [next_perform_breaker, counted, unresolved.counted, successesIn_append]
    rfl
  · rw [successesIn_append]
    by_cases success : operation = .success
    · have early : successesIn since + 1 ≠ max 1 thresholds.successes.toNat := by
        rintro last
        simp [resolve, success, last] at verdict
      simp only [entry, success, if_true]
      omega
    · have other : (course.entry operation).operation ≠ .success := success
      rwa [if_neg other, Nat.add_zero]
  · intro earlier entry later split
    rcases List.eq_nil_or_concat later with rfl | ⟨front, last, rfl⟩
    · obtain ⟨rfl, same⟩ := List.append_inj' split rfl
      obtain rfl := (List.cons.inj same).1
      exact verdict
    · rw [List.concat_eq_append, ← List.cons_append, ← List.append_assoc] at split
      exact unresolved.none earlier entry front (List.append_inj' split rfl).1

theorem pending_run (thresholds : Thresholds) (moment : Moment) (steps : List CourseStep) :
    Pending thresholds (run thresholds moment steps) := by
  refine run_induction ⟨rfl, fun halfOpen => absurd halfOpen nofun⟩ ?_ steps
  intro course step pending
  cases step with
  | pass duration wall =>
      refine ⟨pending.fixed, fun halfOpen => ?_⟩
      obtain ⟨first, since, stay, unresolved⟩ := pending.halfOpen halfOpen
      exact ⟨first, since, stay, unresolved.counted, unresolved.few, unresolved.none⟩
  | perform operation =>
      refine ⟨(course.outcome_thresholds operation).trans pending.fixed, fun enters => ?_⟩
      by_cases inside : course.breaker.phase = .halfOpen
      · obtain ⟨first, since, stay, unresolved⟩ := pending.halfOpen inside
        exact ⟨first, _, stay.append inside enters, unresolved.perform pending.fixed inside enters⟩
      · -- a stay begins with the counter cleared
        refine ⟨course.entry operation, [], .begin _ inside enters, ?_, ?_, by simp⟩
        · exact Breaker.successes_of_enters_halfOpen inside enters
        · exact Nat.lt_of_lt_of_le Nat.one_pos (Nat.le_max_left _ _)

/-! ## The wait that a failure begins -/

theorem instant_le_foldl (course : Course) (more : List CourseStep) :
    course.moment.instant ≤ (more.foldl next course).moment.instant := by
  induction more generalizing course with
  | nil => exact Int.le_refl _
  | cons step more ih =>
      refine Int.le_trans ?_ (ih (course.next step))
      cases step with
      | pass duration wall => exact Int.le_add_of_nonneg_right (Int.natCast_nonneg duration)
      | perform operation => exact Int.le_refl _

/-- An open breaker that is not reset stays open and rejects every call until its timeout has
passed. -/
theorem rejects_until_timeout (course : Course) {opening : Int}
    (opened : course.breaker.phase = .opened) (openedAt : course.breaker.openedAt = some opening)
    (passed : opening ≤ course.moment.instant) (more : List CourseStep)
    (kept : CourseStep.perform .reset ∉ more) :
    let later := more.foldl next course
    later.moment.instant - opening < course.breaker.thresholds.timeout →
      later.breaker.phase = .opened ∧ (later.outcome .allow).granted = false := by
  induction more generalizing course with
  | nil =>
      intro later early
      have asked := (Breaker.allow_of_opened opened openedAt passed).1 early
      exact ⟨opened, congrArg Breaker.Outcome.granted asked⟩
  | cons step more ih =>
      intro later early
      have kept' : CourseStep.perform .reset ∉ more := mt (List.mem_cons_of_mem step) kept
      cases step with
      | pass duration wall =>
          exact ih (course.next (.pass duration wall)) opened openedAt
            (Int.le_trans passed (Int.le_add_of_nonneg_right (Int.natCast_nonneg duration)))
            kept' early
      | perform operation =>
          have stays : (course.outcome operation).breaker.phase = .opened := by
            by_cases asks : operation = .allow
            · have now := instant_le_foldl (course.next (.perform operation)) more
              have asked := (Breaker.allow_of_opened opened openedAt passed).1
                (Int.lt_of_le_of_lt (Int.sub_le_sub_right now opening) early)
              rw [asks]
              exact (congrArg (·.breaker.phase) asked).trans opened
            · refine Breaker.stays_opened opened asks ?_
              rintro rfl
              exact kept List.mem_cons_self
          refine ih (course.next (.perform operation)) stays ?_ passed kept' ?_
          · exact (Breaker.openedAt_of_stays_opened opened stays).trans openedAt
          · rw [next_perform_breaker, outcome_thresholds]
            exact early

/-! ## The law of resolution -/

/-- Nothing of what has happened in a stay in half-open has resolved it, passing time does not, and
every operation leads where `resolve` says: to closed by the success that is the last one needed or
by a reset, to open by a failure or an adopted opening, and nowhere otherwise.  Closing clears the
breaker.  After a failure every call is rejected until the timeout has passed, unless the breaker
is reset. -/
theorem resolution_law (thresholds : Thresholds) (moment : Moment) (steps : List CourseStep)
    (halfOpen : (run thresholds moment steps).breaker.phase = .halfOpen) :
    let course := run thresholds moment steps
    let now := course.moment.instant
    (∃ first since, Stay .halfOpen course.history first since) ∧
    (∀ first since, Stay .halfOpen course.history first since →
      (∀ earlier entry later, since = earlier ++ entry :: later →
        resolve thresholds earlier entry.operation entry.granted = .halfOpen) ∧
      ∀ operation, (course.outcome operation).breaker.phase =
        resolve thresholds since operation (course.outcome operation).granted) ∧
    (∀ duration wall, (course.next (.pass duration wall)).breaker = course.breaker) ∧
    (∀ operation, (course.outcome operation).breaker.phase = .closed →
      (course.outcome operation).breaker.Cleared) ∧
    (course.outcome .failure).breaker.openedAt = some now ∧
    ∀ more : List CourseStep, CourseStep.perform .reset ∉ more →
      let later := more.foldl next (course.next (.perform .failure))
      later.moment.instant - now < thresholds.timeout →
        later.breaker.phase = .opened ∧ (later.outcome .allow).granted = false := by
  intro course now
  have pending : Pending thresholds course := pending_run thresholds moment steps
  obtain ⟨first, since, stay, unresolved⟩ := pending.halfOpen halfOpen
  have opens : (course.outcome .failure).breaker.phase = .opened :=
    congrArg Prod.fst (Breaker.standing_of_halfOpen halfOpen false course.moment)
  have openedAt : (course.outcome .failure).breaker.openedAt = some now :=
    Breaker.openedAt_of_opens (by simp [halfOpen, course]) opens
  refine ⟨⟨first, since, stay⟩, ?_, fun _ _ => rfl, fun operation => ?_, openedAt, ?_⟩
  · intro first' since' stay'
    obtain ⟨rfl, rfl⟩ := stay.last.unique stay'.last
    refine ⟨unresolved.none, fun operation => ?_⟩
    have few : successesIn since < max 1 course.breaker.thresholds.successes.toNat := by
      rw [pending.fixed]
      exact unresolved.few
    have leads : (course.outcome operation).breaker.phase =
        resolve course.breaker.thresholds since operation (course.outcome operation).granted :=
      Breaker.apply_of_halfOpen halfOpen unresolved.counted few
    rwa [pending.fixed] at leads
  · exact Breaker.cleared_of_closes halfOpen
  · intro more kept later early
    refine rejects_until_timeout _ opens openedAt (Int.le_refl _) more kept ?_
    rw [next_perform_breaker, outcome_thresholds, pending.fixed]
    exact early

/-- A breaker that one failure opens is asked again after its timeout. -/
theorem resolution_law_probed :
    let thresholds := { Thresholds.standard with failures := 1 }
    let minute : Duration := Duration.ofSeconds 60
    let steps : List CourseStep :=
      [.perform .failure, .pass minute (.ofNanoseconds minute), .perform .allow]
    let course := run thresholds Clock.start.moment steps
    course.breaker.phase = .halfOpen ∧
      (course.outcome .failure).breaker.openedAt = some (minute : Int) := by
  have halfOpen := show (run { Thresholds.standard with failures := 1 } Clock.start.moment
    [.perform .failure,
      .pass (Duration.ofSeconds 60) (.ofNanoseconds (Duration.ofSeconds 60 : Duration)),
      .perform .allow]).breaker.phase = .halfOpen by decide
  exact ⟨halfOpen, (resolution_law _ _ _ halfOpen).2.2.2.2.1⟩

end Course

end ProviderRouting
