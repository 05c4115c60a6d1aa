import Mathlib.Tactic.Common
import ProviderRouting.Proofs.Breaker.Course

/-!
# Admission of calls

When a breaker admits a call, told by its history alone.  While it is open it rejects every call
until the timeout has passed since its opening, and admits the next one as the first probe of a
stay in half-open.  Within such a stay a call is admitted exactly if a success was recorded since
the last admission or the timeout has passed since it.
-/

namespace ProviderRouting

open Breaker (Operation)

/-- The instant from which an opening counts: an adopted one is as old as it was elsewhere. -/
def Breaker.Operation.openingInstant (operation : Operation) (moment : Moment) : Int :=
  match operation with
  | .adopt openedWall => moment.instant - openedWall.age moment.wall
  | _ => moment.instant

namespace CourseEntry

/-- The instant from which the entry's opening counts. -/
def openingInstant (entry : CourseEntry) : Int := entry.operation.openingInstant entry.moment

/-- Whether the entry is a call that was admitted. -/
def admits (entry : CourseEntry) : Prop := entry.operation = .allow ∧ entry.granted = true

end CourseEntry

/-- Whether a success was recorded among some entries. -/
def Answered (entries : List CourseEntry) : Prop := ∃ entry ∈ entries, entry.operation = .success

theorem answered_append (entries : List CourseEntry) (newest : CourseEntry) :
    Answered (entries ++ [newest]) ↔ Answered entries ∨ newest.operation = .success := by
  simp [Answered, or_and_right, exists_or]

/-- An entry is the last that passes a test, and `later` is what follows it. -/
def IsLast (test : CourseEntry → Prop) (history : List CourseEntry) (entry : CourseEntry)
    (later : List CourseEntry) : Prop :=
  ∃ earlier, history = earlier ++ entry :: later ∧ test entry ∧ ∀ other ∈ later, ¬test other

namespace IsLast

variable {test : CourseEntry → Prop} {history later : List CourseEntry} {entry : CourseEntry}

theorem of_append (history : List CourseEntry) (passes : test entry) :
    IsLast test (history ++ [entry]) entry [] :=
  ⟨history, rfl, passes, by simp⟩

theorem append {newest : CourseEntry} (last : IsLast test history entry later)
    (fails : ¬test newest) : IsLast test (history ++ [newest]) entry (later ++ [newest]) := by
  obtain ⟨earlier, rfl, passes, none⟩ := last
  refine ⟨earlier, by simp, passes, ?_⟩
  intro other member
  rcases List.mem_append.mp member with old | new
  · exact none other old
  · obtain rfl := List.mem_singleton.mp new
    exact fails

/-- Only one entry is the last that passes a test. -/
theorem unique {entry' : CourseEntry} {later' : List CourseEntry}
    (last : IsLast test history entry later) (last' : IsLast test history entry' later') :
    entry = entry' ∧ later = later' := by
  obtain ⟨earlier, rfl, passes, none⟩ := last
  obtain ⟨earlier', split, passes', none'⟩ := last'
  rcases List.append_eq_append_iff.mp split with ⟨middle, rfl, rest⟩ | ⟨middle, rfl, rest⟩
  · cases middle with
    | nil => simpa using rest
    | cons head tail =>
        obtain ⟨rfl, rfl⟩ := List.cons.inj rest
        exact absurd passes' (none entry' (by simp))
  · cases middle with
    | nil => simpa [eq_comm] using rest
    | cons head tail =>
        obtain ⟨rfl, rfl⟩ := List.cons.inj rest
        exact absurd passes (none' entry (by simp))

end IsLast

/-- The present stay in a phase: `first` led into the phase, and `since` happened in it. -/
structure Stay (phase : Phase) (history : List CourseEntry) (first : CourseEntry)
    (since : List CourseEntry) : Prop where
  /-- Nothing led into the phase later. -/
  last : IsLast (fun entry => entry.origin ≠ phase) history first since
  /-- The first entry led into the phase. -/
  entered : first.target = phase
  /-- No later entry led out of it. -/
  within : ∀ entry ∈ since, entry.target = phase

namespace Stay

variable {phase : Phase} {history since : List CourseEntry} {first newest : CourseEntry}

theorem begin (history : List CourseEntry) (outside : newest.origin ≠ phase)
    (entered : newest.target = phase) : Stay phase (history ++ [newest]) newest [] :=
  ⟨.of_append history outside, entered, by simp⟩

theorem append (stay : Stay phase history first since) (inside : newest.origin = phase)
    (within : newest.target = phase) :
    Stay phase (history ++ [newest]) first (since ++ [newest]) := by
  refine ⟨stay.last.append (by simpa using inside), stay.entered, ?_⟩
  intro entry member
  rcases List.mem_append.mp member with old | new
  · exact stay.within entry old
  · obtain rfl := List.mem_singleton.mp new
    exact within

end Stay

namespace Breaker

variable {moment : Moment} {breaker : Breaker} {operation : Operation}

/-! ## What leads into and out of the phases -/

/-- An open breaker stays open unless it is asked or reset. -/
theorem stays_opened (opened : breaker.phase = .opened) (unasked : operation ≠ .allow)
    (kept : operation ≠ .reset) :
    (breaker.apply operation moment).breaker.phase = .opened := by
  cases operation with
  | allow => contradiction
  | success => simp [apply, recordSuccess, opened, keep, tally]
  | failure => simp [apply, recordFailure, opened, keep, tally]
  | bypass succeeded => exact opened
  | snapshot => exact opened
  | adopt openedWall => simp [apply, adopt, opened]
  | reset => contradiction

/-- For as long as a breaker stays open, it remembers when it opened. -/
theorem opening_of_stays_opened (opened : breaker.phase = .opened)
    (stays : (breaker.apply operation moment).breaker.phase = .opened) :
    (breaker.apply operation moment).breaker.openedAt = breaker.openedAt ∧
      (breaker.apply operation moment).breaker.openedWall = breaker.openedWall := by
  cases operation with
  | allow =>
      revert stays
      simp only [apply, allow, opened]
      split <;> simp [switch, admitProbe, reject]
  | success => simp [apply, recordSuccess, opened, keep, tally]
  | failure => simp [apply, recordFailure, opened, keep, tally]
  | bypass succeeded => exact ⟨rfl, rfl⟩
  | snapshot => exact ⟨rfl, rfl⟩
  | adopt openedWall => simp [apply, adopt, opened]
  | reset => simp [apply, reset, opened, fresh] at stays

/-- An opening counts from the same instant for as long as the breaker stays open. -/
theorem openedAt_of_stays_opened (opened : breaker.phase = .opened)
    (stays : (breaker.apply operation moment).breaker.phase = .opened) :
    (breaker.apply operation moment).breaker.openedAt = breaker.openedAt :=
  (opening_of_stays_opened opened stays).1

/-- A breaker that opens keeps the instant from which the opening counts. -/
theorem openedAt_of_opens (outside : breaker.phase ≠ .opened)
    (opens : (breaker.apply operation moment).breaker.phase = .opened) :
    (breaker.apply operation moment).breaker.openedAt =
      some (operation.openingInstant moment) := by
  cases operation with
  | allow =>
      revert opens
      cases phase : breaker.phase with
      | closed => simp [apply, allow, phase, keep]
      | opened => contradiction
      | halfOpen =>
          simp only [apply, allow, phase]
          split <;> simp [reject, keep, admitProbe, phase]
  | success =>
      revert opens
      cases phase : breaker.phase with
      | closed => simp [apply, recordSuccess, phase, keep, tally]
      | opened => contradiction
      | halfOpen =>
          simp only [apply, recordSuccess, phase]
          split <;> simp [switch, enter, keep, tally, phase]
  | failure =>
      revert opens
      cases phase : breaker.phase with
      | closed =>
          simp only [apply, recordFailure, phase]
          split <;> simp [switch, enter, keep, tally, phase, Operation.openingInstant]
      | opened => contradiction
      | halfOpen => simp [apply, recordFailure, phase, switch, enter, Operation.openingInstant]
  | bypass succeeded => exact absurd opens outside
  | snapshot => exact absurd opens outside
  | adopt openedWall =>
      rcases adopt_cases openedWall moment breaker with refused | ⟨_, adopted⟩
      · simp [apply, refused, outside] at opens
      · simp [apply, adopted, switch, enter, Operation.openingInstant]
  | reset =>
      revert opens
      simp only [apply, reset]
      split_ifs with closed <;> simp [keep, fresh]

/-- Only a due call leads into half-open; it is admitted and holds the probe slot. -/
theorem apply_of_enters_halfOpen (outside : breaker.phase ≠ .halfOpen)
    (enters : (breaker.apply operation moment).breaker.phase = .halfOpen) :
    operation = .allow ∧ breaker.phase = .opened ∧
      (breaker.apply operation moment).granted = true ∧
      (breaker.apply operation moment).breaker.probe = some moment.instant := by
  revert enters
  cases operation with
  | allow =>
      cases phase : breaker.phase with
      | closed => simp [apply, allow, phase, keep]
      | opened =>
          simp only [apply, allow, phase]
          split <;> simp [reject, switch, admitProbe, phase]
      | halfOpen => contradiction
  | success =>
      cases phase : breaker.phase with
      | closed => simp [apply, recordSuccess, phase, keep, tally]
      | opened => simp [apply, recordSuccess, phase, keep, tally]
      | halfOpen => contradiction
  | failure =>
      cases phase : breaker.phase with
      | closed =>
          simp only [apply, recordFailure, phase]
          split <;> simp [switch, enter, keep, tally, phase]
      | opened => simp [apply, recordFailure, phase, keep, tally]
      | halfOpen => contradiction
  | bypass succeeded => exact fun enters => absurd enters outside
  | snapshot => exact fun enters => absurd enters outside
  | adopt openedWall =>
      rcases adopt_cases openedWall moment breaker with refused | ⟨_, adopted⟩
      · simp [apply, refused, outside]
      · simp [apply, adopted, switch]
  | reset =>
      simp only [apply, reset]
      split_ifs with closed <;> simp [keep, fresh]

/-- An open breaker rejects a call before its timeout and admits it as a probe afterwards. -/
theorem allow_of_opened {opening : Int} (opened : breaker.phase = .opened)
    (openedAt : breaker.openedAt = some opening) (passed : opening ≤ moment.instant) :
    (moment.instant - opening < breaker.thresholds.timeout →
      breaker.allow moment =
        ⟨{ breaker with rejections := breaker.rejections + 1 }, false, [.rejected]⟩) ∧
    (breaker.thresholds.timeout ≤ moment.instant - opening →
      (breaker.allow moment).granted = true ∧
        (breaker.allow moment).breaker.phase = .halfOpen) := by
  have due : breaker.due moment.instant = true ↔
      breaker.thresholds.timeout ≤ moment.instant - opening := by
    simp only [due, openedAt, decide_eq_true_eq]
    exact le_elapsedSince_iff _ passed
  constructor
  · intro early
    have waiting : ¬breaker.due moment.instant = true := mt due.mp (by omega)
    simp [allow, opened, waiting, reject]
  · intro late
    simp only [allow, opened, if_pos (due.mpr late)]
    exact ⟨rfl, rfl⟩

/-- A half-open breaker admits a call unless a probe younger than the timeout holds the slot. -/
theorem allow_granted_of_halfOpen (halfOpen : breaker.phase = .halfOpen) :
    (breaker.allow moment).granted = true ↔
      ∀ admitted, breaker.probe = some admitted →
        breaker.thresholds.timeout ≤ elapsedSince moment.instant admitted := by
  have granted : (breaker.allow moment).granted = !breaker.probing moment.instant := by
    simp only [allow, halfOpen]
    split <;> simp_all [reject, keep]
  rw [granted]
  cases probe : breaker.probe <;> simp [probing, probe]

/-- Within half-open a success frees the probe slot, an admitted call takes it, and nothing else
touches it. -/
theorem probe_of_stays_halfOpen (inside : breaker.phase = .halfOpen)
    (stays : (breaker.apply operation moment).breaker.phase = .halfOpen) :
    operation = .success ∧ (breaker.apply operation moment).breaker.probe = none ∨
      (operation = .allow ∧ (breaker.apply operation moment).granted = true) ∧
        (breaker.apply operation moment).breaker.probe = some moment.instant ∨
      operation ≠ .success ∧
        ¬(operation = .allow ∧ (breaker.apply operation moment).granted = true) ∧
        (breaker.apply operation moment).breaker.probe = breaker.probe := by
  cases operation with
  | allow =>
      simp only [apply, allow, inside]
      split <;> simp [reject, keep, admitProbe]
  | success =>
      revert stays
      simp only [apply, recordSuccess, inside]
      split <;> simp [switch, keep]
  | failure => simp [apply, recordFailure, inside, switch] at stays
  | bypass succeeded => simp [apply, recordBypass, keep, tally]
  | snapshot => simp [apply, prune, keep]
  | adopt openedWall =>
      rcases adopt_cases openedWall moment breaker with refused | ⟨_, adopted⟩
      · simp [apply, refused]
      · simp [apply, adopted, switch] at stays
  | reset => simp [apply, reset, inside, fresh] at stays

end Breaker

namespace Course

variable {thresholds : Thresholds} {moment : Moment}

/-! ## The invariant -/

/-- What the breaker of a course remembers of its history: while it is open, when that opening
counts from, and while it is half-open, the last admission unless a success has answered it. -/
structure Remembers (thresholds : Thresholds) (course : Course) : Prop where
  /-- The thresholds are the ones of the start. -/
  fixed : course.breaker.thresholds = thresholds
  /-- An open breaker knows its opening instant, which has passed. -/
  opened : course.breaker.phase = .opened →
    ∃ first since, Stay .opened course.history first since ∧
      course.breaker.openedAt = some first.openingInstant ∧
      first.openingInstant ≤ course.moment.instant
  /-- A half-open breaker knows the last admission of its stay, which has passed. -/
  halfOpen : course.breaker.phase = .halfOpen →
    ∃ first since admission later, Stay .halfOpen course.history first since ∧ first.admits ∧
      IsLast CourseEntry.admits (first :: since) admission later ∧
      admission.moment.instant ≤ course.moment.instant ∧
      (Answered later → course.breaker.probe = none) ∧
      (¬Answered later → course.breaker.probe = some admission.moment.instant)

theorem openingInstant_le (operation : Operation) (moment : Moment) :
    operation.openingInstant moment ≤ moment.instant := by
  cases operation with
  | adopt openedWall =>
      simp only [Operation.openingInstant]
      omega
  | _ => exact Int.le_refl _

theorem remembers_start (thresholds : Thresholds) (moment : Moment) :
    Remembers thresholds (start thresholds moment) :=
  ⟨rfl, fun opened => by simp [start, Breaker.fresh] at opened,
    fun halfOpen => by simp [start, Breaker.fresh] at halfOpen⟩

theorem Remembers.pass {course : Course} (known : Remembers thresholds course)
    (duration : Duration) (wall : Timestamp) :
    Remembers thresholds (course.next (.pass duration wall)) where
  fixed := known.fixed
  opened := by
    intro opened
    obtain ⟨first, since, stay, openedAt, passed⟩ := known.opened opened
    exact ⟨first, since, stay, openedAt, by simp [next]; omega⟩
  halfOpen := by
    intro halfOpen
    obtain ⟨first, since, admission, later, stay, admits, last, passed, probe⟩ :=
      known.halfOpen halfOpen
    exact ⟨first, since, admission, later, stay, admits, last, by simp [next]; omega, probe⟩

theorem Remembers.perform {course : Course} (known : Remembers thresholds course)
    (operation : Operation) : Remembers thresholds (course.next (.perform operation)) where
  fixed := by simpa using known.fixed
  opened := by
    intro opens
    by_cases opened : course.breaker.phase = .opened
    · obtain ⟨first, since, stay, openedAt, passed⟩ := known.opened opened
      refine ⟨first, since ++ [course.entry operation], stay.append opened opens, ?_, passed⟩
      rw [← openedAt]
      exact Breaker.openedAt_of_stays_opened opened opens
    · refine ⟨course.entry operation, [], .begin _ opened opens, ?_, openingInstant_le _ _⟩
      exact Breaker.openedAt_of_opens opened opens
  halfOpen := by
    intro enters
    by_cases inside : course.breaker.phase = .halfOpen
    · obtain ⟨first, since, admission, later, stay, admits, last, passed, freed, held⟩ :=
        known.halfOpen inside
      have longer : Stay .halfOpen (course.history ++ [course.entry operation]) first
          (since ++ [course.entry operation]) := stay.append inside enters
      rcases Breaker.probe_of_stays_halfOpen inside enters with
        ⟨success, slot⟩ | ⟨admitted, slot⟩ | ⟨noSuccess, unadmitted, slot⟩
      · have unadmitted : ¬(course.entry operation).admits := by
          simp [CourseEntry.admits, entry, success]
        refine ⟨first, _, admission, _, longer, admits, last.append unadmitted, passed,
          fun _ => slot, fun unanswered => ?_⟩
        exact absurd ((answered_append _ _).mpr (.inr success)) unanswered
      · -- the call becomes the last admission, and nothing has answered it
        exact ⟨first, _, course.entry operation, [], longer, admits,
          .of_append (first :: since) admitted, Int.le_refl _,
          fun answered => by simp [Answered] at answered, fun _ => slot⟩
      · have same : Answered (later ++ [course.entry operation]) ↔ Answered later := by
          rw [answered_append]
          exact or_iff_left noSuccess
        refine ⟨first, _, admission, _, longer, admits, last.append unadmitted, passed, ?_, ?_⟩
        · exact fun answered => slot.trans (freed (same.mp answered))
        · exact fun unanswered => slot.trans (held (mt same.mpr unanswered))
    · obtain ⟨rfl, opened, granted, probe⟩ := Breaker.apply_of_enters_halfOpen inside enters
      have admits : (course.entry .allow).admits := ⟨rfl, granted⟩
      exact ⟨course.entry .allow, [], course.entry .allow, [], .begin _ inside enters, admits,
        .of_append [] admits, Int.le_refl _, fun answered => by simp [Answered] at answered,
        fun _ => probe⟩

theorem remembers_run (thresholds : Thresholds) (moment : Moment) (steps : List CourseStep) :
    Remembers thresholds (run thresholds moment steps) := by
  refine run_induction (remembers_start thresholds moment) ?_ steps
  intro course step known
  cases step with
  | pass duration wall => exact known.pass duration wall
  | perform operation => exact known.perform operation

/-! ## The law of admission -/

/-- While a breaker is open, every call before the timeout has passed since the opening is
rejected and changes nothing but the count of rejections, the first later one is admitted and
leads to half-open, and nothing but a call or a reset leads out.  Only such a call leads to
half-open, and it is the first admission of the stay it begins; within the stay a call is admitted
exactly if a success was recorded since the last admission or the timeout has passed since it. -/
theorem admission_law (thresholds : Thresholds) (moment : Moment) (steps : List CourseStep) :
    let course := run thresholds moment steps
    let now := course.moment.instant
    let asked := course.outcome .allow
    (course.breaker.phase = .opened →
      (∃ first since, Stay .opened course.history first since) ∧
      (∀ first since, Stay .opened course.history first since →
        (now - first.openingInstant < thresholds.timeout →
          asked =
            ⟨{ course.breaker with rejections := course.breaker.rejections + 1 }, false,
              [.rejected]⟩) ∧
        (thresholds.timeout ≤ now - first.openingInstant →
          asked.granted = true ∧ asked.breaker.phase = .halfOpen)) ∧
      ∀ operation, operation ≠ .allow → operation ≠ .reset →
        (course.outcome operation).breaker.phase = .opened) ∧
    (course.breaker.phase ≠ .halfOpen →
      ∀ operation, (course.outcome operation).breaker.phase = .halfOpen →
        operation = .allow ∧ course.breaker.phase = .opened ∧ asked.granted = true) ∧
    (course.breaker.phase = .halfOpen →
      (∃ first since, Stay .halfOpen course.history first since) ∧
      ∀ first since, Stay .halfOpen course.history first since →
        first.admits ∧
        (∃ admission later, IsLast CourseEntry.admits (first :: since) admission later) ∧
        ∀ admission later, IsLast CourseEntry.admits (first :: since) admission later →
          (asked.granted = true ↔
            Answered later ∨ thresholds.timeout ≤ now - admission.moment.instant)) := by
  intro course now asked
  have known : Remembers thresholds course := remembers_run thresholds moment steps
  refine ⟨fun opened => ⟨?_, ?_, ?_⟩, ?_, fun halfOpen => ⟨?_, ?_⟩⟩
  · obtain ⟨first, since, stay, -⟩ := known.opened opened
    exact ⟨first, since, stay⟩
  · intro first since stay
    obtain ⟨first', since', stay', openedAt, passed⟩ := known.opened opened
    obtain ⟨rfl, rfl⟩ := stay.last.unique stay'.last
    rw [← known.fixed]
    exact Breaker.allow_of_opened opened openedAt passed
  · exact fun operation => Breaker.stays_opened opened
  · intro outside operation enters
    obtain ⟨rfl, opened, granted, -⟩ := Breaker.apply_of_enters_halfOpen outside enters
    exact ⟨rfl, opened, granted⟩
  · obtain ⟨first, since, admission, later, stay, -⟩ := known.halfOpen halfOpen
    exact ⟨first, since, stay⟩
  · intro first since stay
    obtain ⟨first', since', admission, later, stay', admits, last, passed, freed, held⟩ :=
      known.halfOpen halfOpen
    obtain ⟨rfl, rfl⟩ := stay.last.unique stay'.last
    refine ⟨admits, ⟨admission, later, last⟩, fun admission' later' last' => ?_⟩
    obtain ⟨rfl, rfl⟩ := last.unique last'
    rw [← known.fixed, ← le_elapsedSince_iff _ passed]
    refine (Breaker.allow_granted_of_halfOpen halfOpen).trans ?_
    by_cases answered : Answered later
    · simp [freed answered, answered]
    · simp [held answered, answered]

end Course

end ProviderRouting
