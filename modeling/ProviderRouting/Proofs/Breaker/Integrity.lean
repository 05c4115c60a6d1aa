import ProviderRouting.Proofs.Breaker.Counting
import ProviderRouting.Proofs.Breaker.Glances
import ProviderRouting.Proofs.Breaker.Opening

/-!
# Integrity of breakers

The fields of a breaker hang together.  Its phase decides whether it knows when it opened, whether a
probe can hold the slot and whether successes are counted; its window is the end of what was
recorded since it was last reset.  Every operation keeps that, whatever thresholds are set in the
meantime.  As long as the thresholds stay, a closed breaker has counted fewer failures in a row than
open it.
-/

namespace ProviderRouting

open Breaker (Operation)

/-- The outcomes recorded since the last reset. -/
def outcomesSinceReset (history : List CourseEntry) : List Sample :=
  (history.rtakeWhile (·.operation != .reset)).filterMap (·.sample?)

section History

variable {history : List CourseEntry} {entry : CourseEntry}

theorem outcomesSinceReset_append_of_reset (reset : entry.operation = .reset) :
    outcomesSinceReset (history ++ [entry]) = [] := by
  simp [outcomesSinceReset, reset]

theorem outcomesSinceReset_append (kept : entry.operation ≠ .reset) :
    outcomesSinceReset (history ++ [entry]) =
      outcomesSinceReset history ++ entry.sample?.toList := by
  rw [outcomesSinceReset, List.rtakeWhile_concat_pos _ _ _ (by simpa using kept),
    List.filterMap_append]
  cases sample : entry.sample? <;> simp [sample, outcomesSinceReset]

end History

namespace Window

variable {horizon : Duration} {now : Int} {window : Window}

theorem suffix_prune : (window.prune horizon now).samples <:+ window.samples :=
  List.dropWhile_suffix _

theorem suffix_record (succeeded : Bool) :
    (window.record horizon now succeeded).samples <:+ window.samples ++ [⟨now, succeeded⟩] := by
  refine suffix_prune.trans ?_
  rw [push]
  dsimp only
  split
  · exact List.tail_suffix _
  · exact List.suffix_rfl

end Window

namespace Breaker

variable {moment : Moment} {breaker : Breaker} {operation : Operation}

/-! ## Fields and phases -/

/-- What the phase of a breaker says about its other fields. -/
structure Coherent (breaker : Breaker) : Prop where
  opened : breaker.openedAt.isSome ↔ breaker.phase ≠ .closed
  stamped : breaker.phase ≠ .closed → breaker.openedWall.isSome
  probed : breaker.probe.isSome → breaker.phase = .halfOpen
  idle : breaker.phase ≠ .halfOpen → breaker.successes = 0
  /-- One more success can be counted on a 32-bit word. -/
  countable : breaker.successes + 1 < UInt32.size
  counted : breaker.phase ≠ .closed → 0 < breaker.timesOpened

theorem coherent_fresh (thresholds : Thresholds) (change : Option Timestamp) :
    Coherent { fresh thresholds with lastChange := change } := by
  constructor <;> simp [fresh, UInt32.size]

/-- Coherence is not about the thresholds, the window and the other counters. -/
theorem Coherent.recount (coherent : breaker.Coherent) (thresholds : Thresholds)
    (failures : Nat) (window : Window) (totalSuccesses totalFailures rejections : Nat) :
    Coherent { breaker with
      thresholds := thresholds
      failures := failures
      window := window
      totalSuccesses := totalSuccesses
      totalFailures := totalFailures
      rejections := rejections } :=
  ⟨coherent.opened, coherent.stamped, coherent.probed, coherent.idle, coherent.countable,
    coherent.counted⟩

theorem coherent_enter_opened (moment : Moment) (breaker : Breaker) :
    (breaker.enter .opened moment).Coherent := by
  constructor <;> simp [enter, UInt32.size]

theorem coherent_enter_closed (moment : Moment) (breaker : Breaker) :
    (breaker.enter .closed moment).Coherent := by
  constructor <;> simp [enter, UInt32.size]

/-- A breaker that becomes half-open still knows when it opened. -/
theorem Coherent.enter_halfOpen (coherent : breaker.Coherent) (outside : breaker.phase ≠ .closed)
    (moment : Moment) : (breaker.enter .halfOpen moment).Coherent where
  opened := iff_of_true (coherent.opened.mpr outside) nofun
  stamped _ := coherent.stamped outside
  probed := nofun
  idle other := absurd rfl other
  countable := by simp [enter, UInt32.size]
  counted _ := coherent.counted outside

theorem Coherent.admitProbe (coherent : breaker.Coherent) (inside : breaker.phase = .halfOpen)
    (now : Int) : (breaker.admitProbe now).Coherent where
  opened := coherent.opened
  stamped := coherent.stamped
  probed _ := inside
  idle := coherent.idle
  countable := coherent.countable
  counted := coherent.counted

theorem Coherent.allow (coherent : breaker.Coherent) (moment : Moment) :
    (breaker.allow moment).breaker.Coherent := by
  cases phase : breaker.phase with
  | closed =>
      simp only [Breaker.allow, phase]
      exact coherent
  | opened =>
      simp only [Breaker.allow, phase]
      split
      · exact (coherent.enter_halfOpen (by simp [phase]) moment).admitProbe (enter_phase _) _
      · exact coherent.recount _ _ _ _ _ _
  | halfOpen =>
      simp only [Breaker.allow, phase]
      split
      · exact coherent.recount _ _ _ _ _ _
      · exact coherent.admitProbe phase _

/-- A success that does not close the breaker leaves the counter below the threshold. -/
theorem Coherent.recordSuccess (coherent : breaker.Coherent) (moment : Moment) :
    (breaker.recordSuccess moment).breaker.Coherent := by
  cases phase : breaker.phase with
  | closed =>
      simp only [Breaker.recordSuccess, phase]
      exact coherent.recount _ _ _ _ _ _
  | opened =>
      simp only [Breaker.recordSuccess, phase]
      exact coherent.recount _ _ _ _ _ _
  | halfOpen =>
      simp only [Breaker.recordSuccess, phase]
      split
      · exact coherent_enter_closed _ _
      · rename_i few
        have word : breaker.thresholds.successes.toNat < UInt32.size :=
          breaker.thresholds.successes.toNat_lt
        exact {
          opened := coherent.opened
          stamped := coherent.stamped
          probed := fun held => absurd held Bool.false_ne_true
          idle := fun other => absurd phase other
          countable := Nat.lt_of_le_of_lt (Nat.not_le.mp few) word
          counted := coherent.counted }

theorem Coherent.recordFailure (coherent : breaker.Coherent) (moment : Moment) :
    (breaker.recordFailure moment).breaker.Coherent := by
  simp only [Breaker.recordFailure]
  split
  · split
    · exact coherent_enter_opened _ _
    · exact coherent.recount _ _ _ _ _ _
  · exact coherent_enter_opened _ _
  · exact coherent.recount _ _ _ _ _ _

theorem Coherent.apply (coherent : breaker.Coherent) (operation : Operation) (moment : Moment) :
    (breaker.apply operation moment).breaker.Coherent := by
  cases operation with
  | allow => exact coherent.allow moment
  | success => exact coherent.recordSuccess moment
  | failure => exact coherent.recordFailure moment
  | bypass succeeded => exact coherent.recount _ _ _ _ _ _
  | snapshot => exact coherent.recount _ _ _ _ _ _
  | adopt openedWall =>
      rcases adopt_cases openedWall moment breaker with refused | ⟨-, adopted⟩
      · rw [Breaker.apply, refused]
        exact coherent
      · rw [Breaker.apply, adopted]
        exact coherent_enter_opened _ _
  | reset =>
      simp only [Breaker.apply, reset]
      split
      · exact coherent_fresh _ none
      · exact coherent_fresh _ _

/-- A breaker that is not closed, and no other, shows when it opened. -/
theorem Coherent.shown_iff (coherent : breaker.Coherent) (provider : String) (moment : Moment) :
    (breaker.snapshot provider moment).2.openedAt.isSome ↔ breaker.phase ≠ .closed := by
  change (if breaker.phase = .closed then none else breaker.openedWall).isSome ↔ _
  split
  · rename_i closed
    simp [closed]
  · rename_i outside
    exact iff_of_true (coherent.stamped outside) outside

/-! ## Counters of a closed breaker -/

/-- A failure that leaves a breaker closed, as everything else, leaves its failures in a row below
the threshold. -/
theorem failures_lt_apply (threshold : 0 < breaker.thresholds.failures.toNat)
    (below : breaker.phase = .closed → breaker.failures < breaker.thresholds.failures.toNat)
    (closed : (breaker.apply operation moment).breaker.phase = .closed) :
    (breaker.apply operation moment).breaker.failures < breaker.thresholds.failures.toNat := by
  by_cases restarts : operation = .reset ∨ breaker.phase ≠ .closed
  · have counts := counts_of_restart (restarts.imp_right fun outside => ⟨outside, closed⟩)
    rw [counts.1]
    exact threshold
  · obtain ⟨kept, inside⟩ := not_or.mp restarts
    have inside := not_not.mp inside
    rw [failures_of_stays_closed inside closed kept]
    cases operation with
    | success => exact threshold
    | failure =>
        have opens : (breaker.apply .failure moment).breaker.phase = .opened ↔ _ :=
          failure_opens_iff inside rfl
        have few := mt opens.mpr (by simp [closed])
        exact Nat.not_le.mp (not_or.mp few).1
    | allow | bypass _ | snapshot | adopt _ => exact below inside
    | reset => exact absurd rfl kept

end Breaker

/-! ## Courses with changing thresholds -/

/-- A step in the course of a breaker whose thresholds may be replaced. -/
inductive RevisedStep where
  /-- A step that leaves the thresholds alone. -/
  | take (step : CourseStep)
  /-- The thresholds are replaced. -/
  | revise (thresholds : Thresholds)

namespace Course

variable {thresholds : Thresholds} {moment : Moment} {course : Course}

/-- Take one step. -/
def revised (course : Course) : RevisedStep → Course
  | .take step => course.next step
  | .revise thresholds => { course with breaker := course.breaker.setThresholds thresholds }

/-- The course of a fresh breaker through some steps. -/
def runRevised (thresholds : Thresholds) (moment : Moment) (steps : List RevisedStep) : Course :=
  steps.foldl revised (start thresholds moment)

/-- Everything recorded enters the window of a breaker that is not reset, from which older outcomes
fall out. -/
theorem suffix_perform {operation : Operation} (kept : operation ≠ .reset) :
    (course.outcome operation).breaker.window.samples <:+
      course.breaker.window.samples ++ (course.entry operation).sample?.toList := by
  -- a restart empties the window; otherwise only recording and pruning touch it
  by_cases restarts : (course.entry operation).restarts = true
  · have counts := Breaker.counts_of_restart ((restarts_entry_iff course operation).mp restarts)
    rw [outcome, counts.2]
    exact List.nil_suffix
  · have never := mt (restarts_entry_iff course operation).mpr restarts
    rw [outcome, Breaker.window_of_no_restart kept (not_and.mp (not_or.mp never).2)]
    cases operation with
    | success | failure | bypass _ => exact Window.suffix_record _
    | snapshot =>
        rw [show (course.entry .snapshot).sample?.toList = [] from rfl, List.append_nil]
        exact Window.suffix_prune
    | allow | adopt _ => simp [CourseEntry.sample?, entry, Breaker.Operation.onWindow]
    | reset => exact absurd rfl kept

theorem totals_perform (course : Course) {operation : Operation} (kept : operation ≠ .reset) :
    (course.outcome operation).breaker.totalSuccesses = course.breaker.totalSuccesses +
        (course.entry operation).sample?.toList.countP (·.succeeded) ∧
      (course.outcome operation).breaker.totalFailures = course.breaker.totalFailures +
        (course.entry operation).sample?.toList.countP (!·.succeeded) := by
  cases operation with
  | allow =>
      have counts := course.breaker.counts_allow course.moment
      exact ⟨counts.successes, counts.failures⟩
  | success =>
      have counts := course.breaker.counts_recordSuccess course.moment
      exact ⟨counts.successes, counts.failures⟩
  | failure =>
      have counts := course.breaker.counts_recordFailure course.moment
      exact ⟨counts.successes, counts.failures⟩
  | bypass succeeded =>
      have counts := course.breaker.counts_recordBypass course.moment succeeded
      cases succeeded <;> exact ⟨counts.successes, counts.failures⟩
  | snapshot => exact ⟨rfl, rfl⟩
  | adopt openedWall =>
      have counts := course.breaker.counts_adopt course.moment openedWall
      exact ⟨counts.successes, counts.failures⟩
  | reset => exact absurd rfl kept

/-- The fields of the breaker of a course fit its phase and its history. -/
structure Intact (course : Course) : Prop where
  coherent : course.breaker.Coherent
  recorded : Window.Recorded (outcomesSinceReset course.history) course.moment.instant
  window : course.breaker.window.samples <:+ outcomesSinceReset course.history
  bounded : course.breaker.window.size ≤ Window.capacity
  successes : course.breaker.totalSuccesses =
    (outcomesSinceReset course.history).countP (·.succeeded)
  failures : course.breaker.totalFailures =
    (outcomesSinceReset course.history).countP (!·.succeeded)

theorem intact_start (thresholds : Thresholds) (moment : Moment) :
    (start thresholds moment).Intact where
  coherent := Breaker.coherent_fresh thresholds none
  recorded := .nil _
  window := List.suffix_rfl
  bounded := Nat.zero_le _
  successes := rfl
  failures := rfl

theorem Intact.reset (intact : course.Intact) : (course.next (.perform .reset)).Intact := by
  have none : outcomesSinceReset (course.next (.perform .reset)).history = [] :=
    outcomesSinceReset_append_of_reset rfl
  have fresh : (course.outcome .reset).breaker.window = .empty ∧
      (course.outcome .reset).breaker.totalSuccesses = 0 ∧
      (course.outcome .reset).breaker.totalFailures = 0 := by
    simp only [outcome, Breaker.apply, Breaker.reset]
    split <;> exact ⟨rfl, rfl, rfl⟩
  obtain ⟨window, successes, failures⟩ := fresh
  constructor
  · exact intact.coherent.apply .reset course.moment
  · rw [none]
    exact .nil _
  · rw [next_perform_breaker, window]
    exact List.nil_suffix
  · exact Breaker.size_window_le .reset course.moment intact.bounded
  · rw [none]
    exact successes
  · rw [none]
    exact failures

theorem Intact.perform (intact : course.Intact) {operation : Operation}
    (kept : operation ≠ .reset) : (course.next (.perform operation)).Intact := by
  have more : outcomesSinceReset (course.next (.perform operation)).history =
      outcomesSinceReset course.history ++ (course.entry operation).sample?.toList :=
    outcomesSinceReset_append kept
  obtain ⟨successes, failures⟩ := totals_perform course kept
  constructor
  · exact intact.coherent.apply operation course.moment
  · rw [more]
    cases operation with
    | success | failure | bypass _ => exact intact.recorded.append _
    | _ => simpa [CourseEntry.sample?, entry] using intact.recorded
  · rw [more]
    exact (suffix_perform kept).trans (List.suffix_append_self_iff.mpr intact.window)
  · exact Breaker.size_window_le operation course.moment intact.bounded
  · rw [more, List.countP_append, ← intact.successes]
    exact successes
  · rw [more, List.countP_append, ← intact.failures]
    exact failures

theorem Intact.revised (intact : course.Intact) (step : RevisedStep) :
    (course.revised step).Intact := by
  cases step with
  | revise thresholds =>
      exact ⟨intact.coherent.recount _ _ _ _ _ _, intact.recorded, intact.window, intact.bounded,
        intact.successes, intact.failures⟩
  | take step =>
      cases step with
      | pass duration wall =>
          have later : course.moment.instant ≤ course.moment.instant + duration :=
            Int.le_add_of_nonneg_right (Int.natCast_nonneg duration)
          exact ⟨intact.coherent, intact.recorded.later later, intact.window, intact.bounded,
            intact.successes, intact.failures⟩
      | perform operation =>
          by_cases reset : operation = .reset
          · exact reset ▸ intact.reset
          · exact intact.perform reset

theorem intact_runRevised (thresholds : Thresholds) (moment : Moment)
    (steps : List RevisedStep) : (runRevised thresholds moment steps).Intact := by
  induction steps using List.reverseRecOn with
  | nil => exact intact_start thresholds moment
  | append_singleton steps step ih =>
      rw [runRevised, List.foldl_append]
      exact ih.revised step

/-- A closed breaker has not failed as often in a row as opens it. -/
def Unspent (thresholds : Thresholds) (course : Course) : Prop :=
  course.breaker.thresholds = thresholds ∧
    (course.breaker.phase = .closed → course.breaker.failures < thresholds.failures.toNat)

theorem unspent_run (threshold : 0 < thresholds.failures.toNat) (moment : Moment)
    (steps : List CourseStep) : (run thresholds moment steps).Unspent thresholds := by
  have initially : (start thresholds moment).Unspent thresholds := ⟨rfl, fun _ => threshold⟩
  refine run_induction initially (fun course step unspent => ?_) steps
  obtain ⟨fixed, below⟩ := unspent
  cases step with
  | pass duration wall => exact ⟨fixed, below⟩
  | perform operation =>
      refine ⟨(course.outcome_thresholds operation).trans fixed, fun closed => ?_⟩
      subst fixed
      exact Breaker.failures_lt_apply threshold below closed

/-! ## The law of integrity -/

/-- Whatever is done with a breaker and whatever thresholds it is given on the way, its fields fit
its phase, it shows when it opened exactly while it is not closed, and its window holds outcomes in
order of time, none of them in the future, no more of them than it has room for, and no more
successes or failures than were recorded since the last reset.  With thresholds that stay as they
are and ask for a failure at least, a closed breaker has counted fewer failures than they ask
for. -/
theorem integrity_law (thresholds : Thresholds) (moment : Moment) :
    (∀ steps : List RevisedStep,
      let course := runRevised thresholds moment steps
      let breaker := course.breaker
      let outcomes := outcomesSinceReset course.history
      breaker.Coherent ∧
        (∀ provider, (breaker.snapshot provider course.moment).2.openedAt.isSome ↔
          breaker.phase ≠ .closed) ∧
        breaker.window.size ≤ Window.capacity ∧
        Window.Recorded breaker.window.samples course.moment.instant ∧
        breaker.totalSuccesses = outcomes.countP (·.succeeded) ∧
        breaker.totalFailures = outcomes.countP (!·.succeeded) ∧
        breaker.window.samples.countP (·.succeeded) ≤ breaker.totalSuccesses ∧
        breaker.window.samples.countP (!·.succeeded) ≤ breaker.totalFailures) ∧
    ∀ steps : List CourseStep,
      let breaker := (run thresholds moment steps).breaker
      0 < thresholds.failures.toNat → breaker.phase = .closed →
        breaker.failures < thresholds.failures.toNat := by
  constructor
  · intro steps course breaker outcomes
    have intact : course.Intact := intact_runRevised thresholds moment steps
    have within := intact.window.sublist
    refine ⟨intact.coherent, fun provider => intact.coherent.shown_iff provider course.moment,
      intact.bounded, ⟨?_, ?_⟩, intact.successes, intact.failures, ?_, ?_⟩
    · exact intact.recorded.ordered.sublist within
    · exact fun sample member => intact.recorded.past sample (within.subset member)
    · exact intact.successes ▸ within.countP_le
    · exact intact.failures ▸ within.countP_le
  · intro steps breaker threshold
    exact (unspent_run threshold moment steps).2

end Course

end ProviderRouting
