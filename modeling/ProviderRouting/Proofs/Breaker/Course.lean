import Mathlib.Data.List.Induction
import ProviderRouting.Breaker.Snapshot

/-!
# Courses of a breaker

A course is the life of one breaker whose thresholds stay as they are: operations are carried out
on it while its clock moves forward.  The course keeps a history of what an onlooker sees of every
operation, so that laws about a breaker can be stated in terms of what has happened to it.
-/

namespace ProviderRouting

namespace Breaker

/-- An operation on a breaker that leaves its thresholds alone. -/
inductive Operation where
  /-- Ask whether a call may proceed. -/
  | allow
  /-- Record the success of an admitted call. -/
  | success
  /-- Record the failure of an admitted call. -/
  | failure
  /-- Record the outcome of a call made without asking. -/
  | bypass (succeeded : Bool)
  /-- Look at the breaker. -/
  | snapshot
  /-- Adopt an opening seen elsewhere. -/
  | adopt (openedWall : Timestamp)
  /-- Return to closed. -/
  | reset
deriving DecidableEq

/-- Carry out an operation at a moment. -/
def apply (operation : Operation) (moment : Moment) (breaker : Breaker) : Outcome :=
  match operation with
  | .allow => breaker.allow moment
  | .success => breaker.recordSuccess moment
  | .failure => breaker.recordFailure moment
  | .bypass succeeded => breaker.recordBypass succeeded moment
  | .snapshot => (breaker.prune moment).keep
  | .adopt openedWall => breaker.adopt openedWall moment
  | .reset => breaker.reset moment

end Breaker

open Breaker (Operation)

/-- What an onlooker sees of one operation. -/
structure CourseEntry where
  /-- When it was carried out. -/
  moment : Moment
  /-- The operation. -/
  operation : Operation
  /-- The phase before. -/
  origin : Phase
  /-- The phase after. -/
  target : Phase
  /-- Whether the operation was granted. -/
  granted : Bool
deriving DecidableEq

/-- A breaker in use. -/
structure Course where
  /-- What the clock shows. -/
  moment : Moment
  /-- The breaker. -/
  breaker : Breaker
  /-- The operations carried out so far, oldest first. -/
  history : List CourseEntry

/-- One step of a course. -/
inductive CourseStep where
  /-- The monotonic reading moves forward; the wall may show anything. -/
  | pass (duration : Duration) (wall : Timestamp)
  /-- An operation is carried out. -/
  | perform (operation : Operation)

namespace Course

/-- A fresh breaker at a moment. -/
def start (thresholds : Thresholds) (moment : Moment) : Course :=
  ⟨moment, .fresh thresholds, []⟩

/-- What an operation would leave if it were carried out now. -/
def outcome (operation : Operation) (course : Course) : Breaker.Outcome :=
  course.breaker.apply operation course.moment

/-- What an onlooker would see of an operation if it were carried out now. -/
def entry (operation : Operation) (course : Course) : CourseEntry where
  moment := course.moment
  operation := operation
  origin := course.breaker.phase
  target := (course.outcome operation).breaker.phase
  granted := (course.outcome operation).granted

/-- Take one step. -/
def next (course : Course) : CourseStep → Course
  | .pass duration wall =>
    { course with moment := ⟨course.moment.instant + duration, wall⟩ }
  | .perform operation =>
    { course with
      breaker := (course.outcome operation).breaker
      history := course.history ++ [course.entry operation] }

/-- The course of a fresh breaker through some steps. -/
def run (thresholds : Thresholds) (moment : Moment) (steps : List CourseStep) : Course :=
  steps.foldl next (start thresholds moment)

@[simp] theorem next_perform_moment (course : Course) (operation : Operation) :
    (course.next (.perform operation)).moment = course.moment := rfl

@[simp] theorem next_perform_breaker (course : Course) (operation : Operation) :
    (course.next (.perform operation)).breaker = (course.outcome operation).breaker := rfl

@[simp] theorem next_perform_history (course : Course) (operation : Operation) :
    (course.next (.perform operation)).history = course.history ++ [course.entry operation] := rfl

variable {thresholds : Thresholds} {moment : Moment}

/-- What holds of a fresh breaker and is kept by every step holds throughout every course. -/
theorem run_induction {holds : Course → Prop} (initially : holds (start thresholds moment))
    (kept : ∀ course step, holds course → holds (course.next step)) (steps : List CourseStep) :
    holds (run thresholds moment steps) := by
  induction steps using List.reverseRecOn with
  | nil => exact initially
  | append_singleton steps step ih =>
      rw [run, List.foldl_append]
      exact kept _ step ih

end Course

namespace Breaker

variable {moment : Moment} {breaker : Breaker}

/-! ## What an operation can do -/

@[simp] theorem fresh_thresholds (thresholds : Thresholds) :
    (fresh thresholds).thresholds = thresholds := rfl

@[simp] theorem enter_thresholds (target : Phase) :
    (breaker.enter target moment).thresholds = breaker.thresholds := by
  cases target <;> rfl

@[simp] theorem enter_phase (target : Phase) :
    (breaker.enter target moment).phase = target := by
  cases target <;> rfl

@[simp] theorem tally_thresholds (succeeded : Bool) :
    (breaker.tally succeeded moment).thresholds = breaker.thresholds := rfl

@[simp] theorem tally_phase (succeeded : Bool) :
    (breaker.tally succeeded moment).phase = breaker.phase := rfl

/-- An opening seen elsewhere is refused, or it opens a breaker that was not open. -/
theorem adopt_cases (openedWall : Timestamp) (moment : Moment) (breaker : Breaker) :
    breaker.adopt openedWall moment = ⟨breaker, false, []⟩ ∨
      breaker.phase ≠ .opened ∧
        breaker.adopt openedWall moment =
          breaker.switch .opened
            ⟨moment.instant - openedWall.age moment.wall, openedWall⟩ := by
  simp only [adopt]
  split_ifs with opened stale expired
  · exact .inl rfl
  · exact .inl rfl
  · exact .inl rfl
  · exact .inr ⟨opened, rfl⟩

/-- What a breaker becomes that adopts an opening. -/
theorem adopt_of_granted {openedWall : Timestamp}
    (adopted : (breaker.adopt openedWall moment).granted = true) :
    (breaker.adopt openedWall moment).breaker =
      breaker.enter .opened
        ⟨moment.instant - openedWall.age moment.wall, openedWall⟩ := by
  rcases adopt_cases openedWall moment breaker with refused | ⟨-, opens⟩
  · rw [refused] at adopted
    exact absurd adopted Bool.false_ne_true
  · rw [opens]
    rfl

/-- No operation of a course changes the thresholds. -/
@[simp] theorem apply_thresholds (operation : Operation) :
    (breaker.apply operation moment).breaker.thresholds = breaker.thresholds := by
  cases operation with
  | allow =>
      simp only [apply, allow]
      split
      · rfl
      · split <;> simp [switch, admitProbe, reject]
      · split <;> simp [keep, admitProbe, reject]
  | success =>
      simp only [apply, recordSuccess]
      split
      · rfl
      · split <;> simp [switch, keep, tally]
      · rfl
  | failure =>
      simp only [apply, recordFailure]
      split
      · split <;> simp [switch, keep, tally]
      · simp [switch, tally]
      · rfl
  | bypass succeeded => rfl
  | snapshot => rfl
  | adopt openedWall =>
      rcases adopt_cases openedWall moment breaker with refused | ⟨_, adopted⟩
      · simp [apply, refused]
      · simp [apply, adopted, switch]
  | reset =>
      simp only [apply, reset]
      split_ifs <;> simp [keep]

end Breaker

@[simp] theorem Course.outcome_thresholds (course : Course) (operation : Operation) :
    (course.outcome operation).breaker.thresholds = course.breaker.thresholds :=
  Breaker.apply_thresholds operation

end ProviderRouting
