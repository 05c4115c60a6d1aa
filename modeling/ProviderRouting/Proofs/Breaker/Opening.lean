import Mathlib.Tactic.Common
import ProviderRouting.Proofs.Breaker.Course
import ProviderRouting.Proofs.Breaker.Window

/-!
# Opening of a closed breaker

A breaker counts failures one by one and keeps a pruned and capped window of outcomes.  Both agree
with what its whole history says: the failures in a row since the last success or restart, and the
latest young outcomes since the last restart.  So a failure opens a closed breaker exactly when its
history calls for it.
-/

namespace ProviderRouting

open Breaker (Operation)

namespace CourseEntry

/-- Whether the breaker starts over with the entry: a reset, or an entry into closed. -/
def restarts (entry : CourseEntry) : Bool :=
  entry.operation == .reset || entry.origin != .closed && entry.target == .closed

/-- The outcome that the entry recorded. -/
def sample? (entry : CourseEntry) : Option Sample :=
  match entry.operation with
  | .success => some ⟨entry.moment.instant, true⟩
  | .failure => some ⟨entry.moment.instant, false⟩
  | .bypass succeeded => some ⟨entry.moment.instant, succeeded⟩
  | _ => none

end CourseEntry

/-! ## What a history says -/

/-- The failures since the later of the last success and the last restart. -/
def failuresInARow (history : List CourseEntry) : Nat :=
  (history.rtakeWhile fun entry => !entry.restarts && entry.operation != .success).countP
    (·.operation == .failure)

/-- The outcomes recorded since the last restart. -/
def outcomesSinceRestart (history : List CourseEntry) : List Sample :=
  (history.rtakeWhile (!·.restarts)).filterMap (·.sample?)

/-- The latest of the outcomes since the last restart that are young enough at an instant. -/
def recentOutcomes (horizon : Duration) (now : Int) (history : List CourseEntry) : List Sample :=
  ((outcomesSinceRestart history).filter (·.isRecent horizon now)).rtake Window.capacity

/-- The failing fraction of some outcomes, zero if there are none. -/
def failingFraction (samples : List Sample) : Float :=
  if samples.isEmpty then 0.0
  else Binary64.ofNat (samples.countP (!·.succeeded)) / Binary64.ofNat samples.length

section History

variable {history : List CourseEntry} {entry : CourseEntry}

theorem failuresInARow_append_of_ends
    (ends : entry.restarts = true ∨ entry.operation = .success) :
    failuresInARow (history ++ [entry]) = 0 := by
  rw [failuresInARow, List.rtakeWhile_concat_neg]
  · rfl
  · rcases ends with restarts | success
    · simp [restarts]
    · simp [success]

theorem failuresInARow_append (kept : entry.restarts = false) (open_ : entry.operation ≠ .success) :
    failuresInARow (history ++ [entry]) =
      failuresInARow history + if entry.operation = .failure then 1 else 0 := by
  rw [failuresInARow, List.rtakeWhile_concat_pos _ _ _ (by simp [kept, open_]), List.countP_append,
    List.countP_singleton]
  simp [failuresInARow]

theorem outcomesSinceRestart_append_of_restarts (restarts : entry.restarts = true) :
    outcomesSinceRestart (history ++ [entry]) = [] := by
  simp [outcomesSinceRestart, restarts]

theorem outcomesSinceRestart_append (kept : entry.restarts = false) :
    outcomesSinceRestart (history ++ [entry]) =
      outcomesSinceRestart history ++ entry.sample?.toList := by
  simp only [outcomesSinceRestart, List.rtakeWhile_concat, kept, Bool.not_false, if_true,
    List.filterMap_append]
  cases sample : entry.sample? <;> simp [sample]

end History

namespace Breaker

variable {moment : Moment} {breaker : Breaker} {operation : Operation}

/-! ## What an operation does to the counts -/

/-- What an operation without restart makes of the window. -/
def Operation.onWindow (horizon : Duration) (now : Int) (window : Window) : Operation → Window
  | .success => window.record horizon now true
  | .failure => window.record horizon now false
  | .bypass succeeded => window.record horizon now succeeded
  | .snapshot => window.prune horizon now
  | _ => window

/-- What an operation that keeps a breaker closed makes of the failures in a row. -/
def Operation.onFailures (failures : Nat) : Operation → Nat
  | .success => 0
  | .failure => min (failures + 1) failureLimit
  | _ => failures

/-- A breaker that starts over has counted nothing. -/
theorem counts_of_restart
    (restarts : operation = .reset ∨
      breaker.phase ≠ .closed ∧ (breaker.apply operation moment).breaker.phase = .closed) :
    (breaker.apply operation moment).breaker.failures = 0 ∧
      (breaker.apply operation moment).breaker.window = .empty := by
  rcases restarts with rfl | ⟨outside, enters⟩
  · simp only [apply, reset]
    split_ifs <;> exact ⟨rfl, rfl⟩
  · revert enters
    cases operation with
    | allow =>
        cases phase : breaker.phase with
        | closed => contradiction
        | opened =>
            simp only [apply, allow, phase]
            split <;> simp [switch, enter, admitProbe, reject, phase]
        | halfOpen =>
            simp only [apply, allow, phase]
            split <;> simp [keep, admitProbe, reject, phase]
    | success =>
        cases phase : breaker.phase with
        | closed => contradiction
        | opened => simp [apply, recordSuccess, phase, keep, tally]
        | halfOpen =>
            simp only [apply, recordSuccess, phase]
            split <;> simp [switch, enter, keep, tally, phase]
    | failure =>
        cases phase : breaker.phase with
        | closed => contradiction
        | opened => simp [apply, recordFailure, phase, keep, tally]
        | halfOpen => simp [apply, recordFailure, phase, switch]
    | bypass succeeded => exact fun enters => absurd enters outside
    | snapshot => exact fun enters => absurd enters outside
    | adopt openedWall =>
        rcases adopt_cases openedWall moment breaker with refused | ⟨_, adopted⟩
        · simp [apply, refused, outside]
        · simp [apply, adopted, switch]
    | reset =>
        simp only [apply, reset, if_neg outside]
        exact fun _ => ⟨rfl, rfl⟩

/-- Otherwise every outcome enters the window, and a look at the breaker prunes it. -/
theorem window_of_no_restart (kept : operation ≠ .reset)
    (outside : breaker.phase ≠ .closed →
      (breaker.apply operation moment).breaker.phase ≠ .closed) :
    (breaker.apply operation moment).breaker.window =
      operation.onWindow breaker.thresholds.horizon moment.instant breaker.window := by
  cases operation with
  | allow =>
      simp only [apply, allow]
      split
      · rfl
      · split <;> simp [switch, enter, admitProbe, reject, Operation.onWindow]
      · split <;> simp [keep, admitProbe, reject, Operation.onWindow]
  | success =>
      simp only [apply, recordSuccess] at outside ⊢
      split
      · rfl
      · rename_i halfOpen
        split
        · simp_all [switch]
        · rfl
      · rfl
  | failure =>
      simp only [apply, recordFailure]
      split
      · split <;> rfl
      · rfl
      · rfl
  | bypass succeeded => rfl
  | snapshot => rfl
  | adopt openedWall =>
      rcases adopt_cases openedWall moment breaker with refused | ⟨_, adopted⟩
      · simp [apply, refused, Operation.onWindow]
      · simp [apply, adopted, switch, enter, Operation.onWindow]
  | reset => contradiction

/-- While a breaker stays closed, a success ends the failures in a row and a failure adds one. -/
theorem failures_of_stays_closed (inside : breaker.phase = .closed)
    (stays : (breaker.apply operation moment).breaker.phase = .closed)
    (kept : operation ≠ .reset) :
    (breaker.apply operation moment).breaker.failures =
      operation.onFailures breaker.failures := by
  cases operation with
  | allow => simp [apply, allow, inside, keep, Operation.onFailures]
  | success => simp [apply, recordSuccess, inside, keep, Operation.onFailures]
  | failure =>
      revert stays
      simp only [apply, recordFailure, inside]
      split <;> simp [switch, keep, Operation.onFailures]
  | bypass succeeded => rfl
  | snapshot => rfl
  | adopt openedWall =>
      rcases adopt_cases openedWall moment breaker with refused | ⟨_, adopted⟩
      · simp [apply, refused, Operation.onFailures]
      · simp [apply, adopted, switch] at stays
  | reset => contradiction

theorem rateExceeded_iff :
    breaker.rateExceeded = true ↔
      breaker.thresholds.minimumSamples.toNat ≤ breaker.window.size ∧
        breaker.window.failureRate > breaker.thresholds.rate := by
  simp [rateExceeded]

/-- A failure opens a closed breaker if the failures counted or the failing fraction of the window
call for it. -/
theorem failure_opens_iff {window : Window} (closed : breaker.phase = .closed)
    (recorded : (breaker.apply .failure moment).breaker.window = window) :
    (breaker.apply .failure moment).breaker.phase = .opened ↔
      breaker.thresholds.failures.toNat ≤ min (breaker.failures + 1) failureLimit ∨
        breaker.thresholds.minimumSamples.toNat ≤ window.size ∧
          window.failureRate > breaker.thresholds.rate := by
  subst recorded
  simp only [apply, recordFailure, closed]
  split
  · rename_i calls
    rw [Bool.or_eq_true, decide_eq_true_eq, rateExceeded_iff] at calls
    exact iff_of_true (enter_phase _) calls
  · rename_i calls
    rw [Bool.or_eq_true, decide_eq_true_eq, rateExceeded_iff] at calls
    exact iff_of_false (by simp [keep, closed]) calls

/-- The limit of the failures counted is above every threshold. -/
theorem le_min_failureLimit_iff (threshold : UInt32) (count : Nat) :
    threshold.toNat ≤ min count failureLimit ↔ threshold.toNat ≤ count := by
  have bounded : threshold.toNat < UInt32.size := threshold.toNat_lt
  simp only [failureLimit]
  omega

/-- Only a failure and an adopted opening lead out of closed. -/
theorem apply_of_leaves_closed (inside : breaker.phase = .closed)
    (leaves : (breaker.apply operation moment).breaker.phase ≠ .closed) :
    (operation = .failure ∨ ∃ openedWall, operation = .adopt openedWall) ∧
      (breaker.apply operation moment).granted = true ∧
      (breaker.apply operation moment).breaker.phase = .opened := by
  revert leaves
  cases operation with
  | allow => simp [apply, allow, inside, keep]
  | success => simp [apply, recordSuccess, inside, keep, tally]
  | failure =>
      simp only [apply, recordFailure, inside]
      split <;> simp [switch, keep, tally, inside]
  | bypass succeeded => exact fun leaves => absurd inside leaves
  | snapshot => exact fun leaves => absurd inside leaves
  | adopt openedWall =>
      rcases adopt_cases openedWall moment breaker with refused | ⟨_, adopted⟩
      · simp [apply, refused, inside]
      · simp [apply, adopted, switch]
  | reset => simp [apply, reset, inside, keep, fresh]

end Breaker

namespace Course

variable {thresholds : Thresholds} {moment : Moment}

/-- The counts of the breaker of a course agree with its history. -/
structure Agrees (thresholds : Thresholds) (course : Course) : Prop where
  /-- The thresholds are the ones of the start. -/
  fixed : course.breaker.thresholds = thresholds
  /-- The outcomes stand in order of time. -/
  recorded : Window.Recorded (outcomesSinceRestart course.history) course.moment.instant
  /-- The window holds what counts of them. -/
  window : Window.Covers thresholds.horizon course.moment.instant
    (outcomesSinceRestart course.history) course.breaker.window
  /-- A closed breaker has counted the failures in a row, up to its limit. -/
  failures : course.breaker.phase = .closed →
    course.breaker.failures = min (failuresInARow course.history) Breaker.failureLimit

theorem agrees_start (thresholds : Thresholds) (moment : Moment) :
    Agrees thresholds (start thresholds moment) :=
  ⟨rfl, .nil _, .empty _ _, fun _ => rfl⟩

theorem Agrees.pass {course : Course} (agrees : Agrees thresholds course) (duration : Duration)
    (wall : Timestamp) : Agrees thresholds (course.next (.pass duration wall)) := by
  have passed : course.moment.instant ≤ course.moment.instant + duration := by omega
  exact ⟨agrees.fixed, agrees.recorded.later passed, agrees.window.later passed, agrees.failures⟩

theorem restarts_entry_iff (course : Course) (operation : Operation) :
    (course.entry operation).restarts = true ↔
      operation = .reset ∨
        course.breaker.phase ≠ .closed ∧ (course.outcome operation).breaker.phase = .closed := by
  simp [CourseEntry.restarts, entry]

theorem Agrees.perform_of_restart {course : Course} (agrees : Agrees thresholds course)
    {operation : Operation} (restarts : (course.entry operation).restarts = true) :
    Agrees thresholds (course.next (.perform operation)) := by
  obtain ⟨failures, window⟩ :=
    Breaker.counts_of_restart ((restarts_entry_iff course operation).mp restarts)
  have outcomes : outcomesSinceRestart (course.next (.perform operation)).history = [] :=
    outcomesSinceRestart_append_of_restarts restarts
  refine ⟨by simpa using agrees.fixed, ?_, ?_, fun _ => ?_⟩
  · rw [outcomes]
    exact .nil _
  · rw [outcomes]
    exact window ▸ .empty _ _
  · have row : failuresInARow (course.next (.perform operation)).history = 0 :=
      failuresInARow_append_of_ends (.inl restarts)
    rw [row, Nat.zero_min]
    exact failures

theorem Agrees.perform_of_no_restart {course : Course} (agrees : Agrees thresholds course)
    {operation : Operation} (continues : (course.entry operation).restarts = false) :
    Agrees thresholds (course.next (.perform operation)) := by
  have never := mt (restarts_entry_iff course operation).mpr (by simp [continues])
  obtain ⟨kept, outside⟩ := not_or.mp never
  have window : (course.outcome operation).breaker.window =
      operation.onWindow thresholds.horizon course.moment.instant course.breaker.window := by
    rw [← agrees.fixed]
    exact Breaker.window_of_no_restart kept (not_and.mp outside)
  have outcomes : outcomesSinceRestart (course.next (.perform operation)).history =
      outcomesSinceRestart course.history ++ (course.entry operation).sample?.toList :=
    outcomesSinceRestart_append continues
  refine ⟨by simpa using agrees.fixed, ?_, ?_, ?_⟩
  · rw [outcomes, next_perform_moment]
    cases operation with
    | success | failure | bypass => exact agrees.recorded.append _
    | _ => simpa [CourseEntry.sample?, entry] using agrees.recorded
  · rw [outcomes, next_perform_moment, next_perform_breaker, window]
    cases operation with
    | success | failure | bypass => exact agrees.window.record agrees.recorded _
    | snapshot =>
        simpa [CourseEntry.sample?, entry, Breaker.Operation.onWindow] using
          agrees.window.prune agrees.recorded
    | _ => simpa [CourseEntry.sample?, entry, Breaker.Operation.onWindow] using agrees.window
  · intro closed
    have inside : course.breaker.phase = .closed := by
      by_contra opened
      exact outside ⟨opened, closed⟩
    have failures : (course.next (.perform operation)).breaker.failures =
        operation.onFailures course.breaker.failures :=
      Breaker.failures_of_stays_closed inside closed kept
    rw [failures, agrees.failures inside]
    by_cases success : operation = .success
    · have row : failuresInARow (course.next (.perform operation)).history = 0 :=
        failuresInARow_append_of_ends (.inr success)
      rw [row, success]
      simp [Operation.onFailures]
    · have row : failuresInARow (course.next (.perform operation)).history =
          failuresInARow course.history + if operation = .failure then 1 else 0 :=
        failuresInARow_append continues success
      rw [row]
      cases operation <;> simp_all [Operation.onFailures]
      omega

theorem agrees_run (thresholds : Thresholds) (moment : Moment) (steps : List CourseStep) :
    Agrees thresholds (run thresholds moment steps) := by
  refine run_induction (agrees_start thresholds moment) ?_ steps
  intro course step agrees
  cases step with
  | pass duration wall => exact agrees.pass duration wall
  | perform operation =>
      cases restarts : (course.entry operation).restarts with
      | true => exact agrees.perform_of_restart restarts
      | false => exact agrees.perform_of_no_restart restarts

/-- Once it is pruned, the window of a course shows the recent outcomes of its history. -/
theorem Agrees.prune_samples {course : Course} (agrees : Agrees thresholds course) :
    (course.breaker.prune course.moment).window.samples =
      recentOutcomes thresholds.horizon course.moment.instant course.history := by
  simp only [Breaker.prune, agrees.fixed]
  exact agrees.window.prune_samples_eq agrees.recorded

/-! ## The law of opening -/

/-- A failure opens a closed breaker exactly when the failures in a row reach their threshold, or
the recent outcomes are enough and fail too often.  Nothing else but an adopted opening leads out
of closed, and a look at the breaker shows how many recent outcomes there are and which fraction
of them failed. -/
theorem opening_law (thresholds : Thresholds) (moment : Moment) (steps : List CourseStep) :
    let course := run thresholds moment steps
    let now := course.moment.instant
    (course.breaker.phase = .closed →
      (let history := (course.next (.perform .failure)).history
        let recent := recentOutcomes thresholds.horizon now history
        (course.outcome .failure).breaker.phase = .opened ↔
          thresholds.failures.toNat ≤ failuresInARow history ∨
            thresholds.minimumSamples.toNat ≤ recent.length ∧
              failingFraction recent > thresholds.rate) ∧
      ∀ operation, operation ≠ .failure →
        (course.outcome operation).breaker.phase ≠ .closed →
        (∃ openedWall, operation = .adopt openedWall) ∧
          (course.outcome operation).granted = true) ∧
    ∀ provider,
      let recent := recentOutcomes thresholds.horizon now course.history
      let view := (course.breaker.snapshot provider course.moment).2
      view.windowSamples = recent.length ∧ view.failureRate = failingFraction recent := by
  intro course now
  have agrees : Agrees thresholds course := agrees_run thresholds moment steps
  refine ⟨fun closed => ⟨?_, ?_⟩, ?_⟩
  · intro history recent
    have continues : (course.entry .failure).restarts = false := by
      simp [CourseEntry.restarts, entry, closed]
    have row : failuresInARow history = failuresInARow course.history + 1 :=
      failuresInARow_append continues (by simp [entry])
    have recorded : (course.outcome .failure).breaker.window =
        course.breaker.window.record course.breaker.thresholds.horizon now false :=
      Breaker.window_of_no_restart (by simp) (by simp [closed])
    have samples : (course.outcome .failure).breaker.window.samples = recent := by
      refine Eq.trans ?_ (agrees.perform_of_no_restart continues).prune_samples
      simp only [Breaker.prune, next_perform_breaker, next_perform_moment, outcome_thresholds]
      rw [recorded, Window.record_prune]
    have opens : (course.outcome .failure).breaker.phase = .opened ↔ _ :=
      Breaker.failure_opens_iff closed rfl
    have counted : min (course.breaker.failures + 1) Breaker.failureLimit =
        min (failuresInARow history) Breaker.failureLimit := by
      rw [agrees.failures closed, row]
      omega
    rw [counted, Breaker.le_min_failureLimit_iff, agrees.fixed] at opens
    rw [← samples]
    exact opens
  · intro operation other leaves
    obtain ⟨which, granted, -⟩ := Breaker.apply_of_leaves_closed closed leaves
    exact ⟨which.resolve_left other, granted⟩
  · intro provider recent view
    have samples : (course.breaker.prune course.moment).window.samples = recent :=
      agrees.prune_samples
    exact ⟨congrArg List.length samples, congrArg failingFraction samples⟩

end Course

end ProviderRouting
