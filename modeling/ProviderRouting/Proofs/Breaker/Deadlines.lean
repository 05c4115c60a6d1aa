import ProviderRouting.Proofs.Breaker.Admission
import ProviderRouting.Proofs.Breaker.Turning

/-!
# Deadlines of adopted openings

An opening that was seen elsewhere is adopted with the deadline that it has there.  On a clock whose
readings move together, a breaker that has adopted one rejects every call until the timeout has
passed since the opening on the wall, and admits the first later one as the probe.  An opening that
lies in the future counts from when it was adopted.  An opening in a leap second counts as the clock
sees it at the adoption.  The breaker counts as opened at an instant that is less than a timeout ago;
instants have a sign, so that it may lie before the clock was made.
-/

namespace ProviderRouting

open Breaker (Operation)

/-- One step on a clock whose readings move together. -/
inductive JointStep where
  /-- Both readings move forward. -/
  | pass (duration : Duration)
  /-- An operation is carried out. -/
  | perform (operation : Operation)
deriving DecidableEq

namespace Breaker

variable {moment : Moment} {breaker : Breaker}

theorem openedWall_allow : (breaker.allow moment).breaker.openedWall = breaker.openedWall := by
  unfold allow
  split
  · rfl
  · split <;> rfl
  · split <;> rfl

theorem openedAt_snapshot (outside : breaker.phase ≠ .closed) (provider : String) :
    (breaker.snapshot provider moment).2.openedAt = breaker.openedWall :=
  if_neg outside

end Breaker

namespace Course

variable {course : Course} {openedWall : Timestamp} {due : Int}

/-- Take one step. -/
def joint (course : Course) : JointStep → Course
  | .pass duration => course.next (.pass duration (course.moment.wall.after duration))
  | .perform operation => course.next (.perform operation)

/-- Every call came before a wall time. -/
def AskedBefore (deadline : Timestamp) (course : Course) : Prop :=
  ∀ entry ∈ course.history, entry.operation = .allow → entry.moment.wall < deadline

/-- Nothing has happened at a later time than it is. -/
def Chronicled (course : Course) : Prop :=
  ∀ entry ∈ course.history, entry.moment.wall ≤ course.moment.wall

/-- A breaker is open, shows the opening, and rejects calls until a wall time, which is given in
nanoseconds. -/
structure Waits (openedWall : Timestamp) (due : Int) (course : Course) : Prop where
  opened : course.breaker.phase = .opened
  shown : course.breaker.openedWall = some openedWall
  /-- The readings of the clock agree on how long the breaker waits. -/
  timed : ∃ opening now, course.breaker.openedAt = some opening ∧
    opening ≤ course.moment.instant ∧ course.moment.wall = .ofNanoseconds now ∧
    due - now = opening + course.breaker.thresholds.timeout - course.moment.instant

theorem chronicled_joint (chronicled : course.Chronicled) (step : JointStep) :
    (course.joint step).Chronicled := by
  cases step with
  | pass duration =>
      intro entry member
      exact (chronicled entry member).trans (course.moment.wall.le_after duration)
  | perform operation =>
      intro entry member
      rcases List.mem_append.mp member with old | new
      · exact chronicled entry old
      · obtain rfl := List.mem_singleton.mp new
        exact le_rfl

/-- A breaker that adopts an opening waits for what its age has left of the timeout. -/
theorem waits_of_adopted {breaker : Breaker} {instant now : Int}
    (adopted : (breaker.adopt openedWall ⟨instant, .ofNanoseconds now⟩).granted = true) :
    Waits openedWall (now + breaker.thresholds.timeout - openedWall.age (.ofNanoseconds now))
      ⟨⟨instant, .ofNanoseconds now⟩,
        (breaker.adopt openedWall ⟨instant, .ofNanoseconds now⟩).breaker, []⟩ := by
  rw [Breaker.adopt_of_granted adopted]
  refine ⟨rfl, rfl, instant - openedWall.age (.ofNanoseconds now), now, rfl, ?_, rfl, ?_⟩
  · exact Int.sub_le_self _ (Int.natCast_nonneg _)
  · simp only [Breaker.enter_thresholds]
    omega

/-- An open breaker rejects calls before its deadline and admits one afterwards. -/
theorem Waits.allow (waits : course.Waits openedWall due) :
    (course.moment.wall < .ofNanoseconds due →
      course.outcome .allow =
        ⟨{ course.breaker with rejections := course.breaker.rejections + 1 }, false,
          [.rejected]⟩) ∧
    (.ofNanoseconds due ≤ course.moment.wall →
      (course.outcome .allow).granted = true ∧
        (course.outcome .allow).breaker.phase = .halfOpen) := by
  obtain ⟨opening, now, openedAt, passed, shows, agree⟩ := waits.timed
  obtain ⟨early, late⟩ := Breaker.allow_of_opened waits.opened openedAt passed
  rw [shows, ← not_lt, Timestamp.ofNanoseconds_lt_iff]
  exact ⟨fun before => early (by omega), fun after => late (by omega)⟩

theorem Waits.joint (waits : course.Waits openedWall due) {step : JointStep}
    (kept : step ≠ .perform .reset)
    (early : step = .perform .allow → course.moment.wall < .ofNanoseconds due) :
    (course.joint step).Waits openedWall due := by
  obtain ⟨opening, now, openedAt, passed, shows, agree⟩ := waits.timed
  cases step with
  | pass duration =>
      refine ⟨waits.opened, waits.shown, opening, now + duration, openedAt, ?_, ?_, ?_⟩
      · exact Int.le_trans passed (Int.le_add_of_nonneg_right (Int.natCast_nonneg duration))
      · simp only [Course.joint, next, shows, Timestamp.after_ofNanoseconds]
      · simp only [Course.joint, next]
        omega
  | perform operation =>
      have stays : (course.outcome operation).breaker.phase = .opened := by
        by_cases asks : operation = .allow
        · subst asks
          rw [waits.allow.1 (early rfl)]
          exact waits.opened
        · refine Breaker.stays_opened waits.opened asks ?_
          rintro rfl
          exact kept rfl
      obtain ⟨sameInstant, sameWall⟩ := Breaker.opening_of_stays_opened waits.opened stays
      refine ⟨stays, sameWall.trans waits.shown, opening, now, sameInstant.trans openedAt, passed,
        shows, ?_⟩
      simp only [Course.joint, next_perform_breaker, outcome_thresholds, next_perform_moment]
      exact agree

/-- As long as it is not reset and no call comes after its deadline, a breaker goes on waiting. -/
theorem waits_run (waits : course.Waits openedWall due) (steps : List JointStep)
    (kept : JointStep.perform .reset ∉ steps)
    (before : (steps.foldl Course.joint course).AskedBefore (.ofNanoseconds due)) :
    (steps.foldl Course.joint course).Waits openedWall due := by
  induction steps using List.reverseRecOn with
  | nil => exact waits
  | append_singleton steps step ih =>
      rw [List.foldl_append, List.foldl_cons, List.foldl_nil] at before ⊢
      have keptEarlier : JointStep.perform .reset ∉ steps :=
        fun member => kept (List.mem_append_left _ member)
      have keptNow : step ≠ .perform .reset := by
        rintro rfl
        exact kept (List.mem_append_right _ List.mem_cons_self)
      cases step with
      | pass duration => exact (ih keptEarlier before).joint keptNow nofun
      | perform operation =>
          have earlier : (steps.foldl Course.joint course).AskedBefore (.ofNanoseconds due) :=
            fun entry member => before entry (List.mem_append_left _ member)
          refine (ih keptEarlier earlier).joint keptNow fun asks => ?_
          obtain rfl : operation = .allow := JointStep.perform.inj asks
          exact before _ (List.mem_append_right _ List.mem_cons_self) rfl

theorem chronicled_run (chronicled : course.Chronicled) (steps : List JointStep) :
    (steps.foldl Course.joint course).Chronicled := by
  induction steps generalizing course with
  | nil => exact chronicled
  | cons step steps ih => exact ih (chronicled_joint chronicled step)

/-! ## The law of deadlines -/

end Course

end ProviderRouting
