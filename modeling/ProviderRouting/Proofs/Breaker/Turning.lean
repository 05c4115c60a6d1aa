import Mathlib.Tactic.Common
import ProviderRouting.Proofs.Breaker.Banks
import ProviderRouting.Proofs.Breaker.Course
import ProviderRouting.Proofs.Time.Timestamps

/-!
# Turning points of breakers

Of its changes of phase a breaker keeps its phase, when it last changed and when it last opened.
An operation on a bank leaves that alone for every provider, or it turns one breaker into another
phase and reports just that.  Breakers turn at the time of the operation and open by a failed call
only; a breaker that adopts an opening turns at the time of the opening.
-/

namespace ProviderRouting

/-- What a breaker keeps of its changes of phase. -/
structure Mark where
  /-- The phase. -/
  phase : Phase
  /-- The wall time of the last change. -/
  lastChange : Option Timestamp
  /-- The wall time of the last opening. -/
  openedWall : Option Timestamp
deriving DecidableEq

/-- The mark after a change of phase. -/
def Mark.turn (target : Phase) (wall : Timestamp) (mark : Mark) : Mark :=
  ⟨target, some wall, if target = .opened then some wall else mark.openedWall⟩

/-- The change of phase that a notice is about. -/
def Notice.transition? : Notice → Option Transition
  | changed transition => some transition
  | rejected => none

/-! ## Breakers -/

namespace Breaker

/-- The changes of phase that the observers are told of an operation. -/
def Outcome.told (outcome : Outcome) : List Transition := outcome.notices.filterMap (·.transition?)

/-- What the breaker keeps of its changes of phase. -/
def mark (breaker : Breaker) : Mark := ⟨breaker.phase, breaker.lastChange, breaker.openedWall⟩

/-- An operation leaves the mark of a breaker alone, or turns it as it may and tells the
observers. -/
inductive Turns (breaker : Breaker) (may : Phase → Timestamp → Prop) (outcome : Outcome) : Prop where
  /-- Nothing changes, and the observers are told of rejections at most. -/
  | still (mark : outcome.breaker.mark = breaker.mark)
      (silent : ∀ notice ∈ outcome.notices, notice = .rejected)
  /-- The phase changes, and the observers are told so. -/
  | turned (target : Phase) (wall : Timestamp) (may : may target wall)
      (mark : outcome.breaker.mark = breaker.mark.turn target wall)
      (told : outcome.notices = [.changed ⟨breaker.phase, target, wall⟩])

variable {breaker : Breaker} {may : Phase → Timestamp → Prop} {outcome : Outcome}

theorem Turns.imp {also : Phase → Timestamp → Prop} (turns : breaker.Turns may outcome)
    (implies : ∀ target wall, may target wall → also target wall) :
    breaker.Turns also outcome := by
  cases turns with
  | still mark silent => exact .still mark silent
  | turned target wall may mark told => exact .turned target wall (implies _ _ may) mark told

variable (breaker : Breaker) (moment : Moment)

theorem turns_keep (mark : outcome.breaker.mark = breaker.mark) (silent : outcome.notices = []) :
    breaker.Turns may outcome :=
  .still mark (by simp [silent])

theorem turns_reject : breaker.Turns may breaker.reject :=
  .still rfl (by simp [reject])

theorem turns_recordBypass (succeeded : Bool) :
    breaker.Turns (fun _ _ => False) (breaker.recordBypass succeeded moment) :=
  turns_keep breaker rfl rfl

theorem turns_prune : breaker.Turns (fun _ _ => False) (breaker.prune moment).keep :=
  turns_keep breaker rfl rfl

/-- A call that is admitted turns no breaker but to half-open. -/
theorem turns_allow :
    breaker.Turns (fun target wall => wall = moment.wall ∧ target ≠ .opened)
      (breaker.allow moment) := by
  unfold allow
  split
  · exact turns_keep breaker rfl rfl
  · split
    · exact .turned .halfOpen moment.wall ⟨rfl, nofun⟩ rfl rfl
    · exact breaker.turns_reject
  · split
    · exact breaker.turns_reject
    · exact turns_keep breaker rfl rfl

/-- A successful call turns no breaker but to closed. -/
theorem turns_recordSuccess :
    breaker.Turns (fun target wall => wall = moment.wall ∧ target ≠ .opened)
      (breaker.recordSuccess moment) := by
  unfold recordSuccess
  split
  · exact turns_keep breaker rfl rfl
  · dsimp only
    split
    · exact .turned .closed moment.wall ⟨rfl, nofun⟩ rfl rfl
    · exact turns_keep breaker rfl rfl
  · exact turns_keep breaker rfl rfl

/-- A failed call turns a breaker to open. -/
theorem turns_recordFailure :
    breaker.Turns (fun _ wall => wall = moment.wall) (breaker.recordFailure moment) := by
  unfold recordFailure
  split
  · dsimp only
    split
    · exact .turned .opened moment.wall rfl rfl rfl
    · exact turns_keep breaker rfl rfl
  · exact .turned .opened moment.wall rfl rfl rfl
  · exact turns_keep breaker rfl rfl

/-- An opening is adopted if the breaker is not open, the opening is later than the last change that
the breaker remembers, and its timeout has not passed. -/
theorem adopt_granted_iff (openedWall : Timestamp) (moment : Moment) (breaker : Breaker) :
    (breaker.adopt openedWall moment).granted = true ↔
      breaker.phase ≠ .opened ∧
        openedWall.age moment.wall < breaker.thresholds.timeout ∧
        ∀ change, breaker.lastChange = some change → change < openedWall := by
  simp only [adopt]
  split_ifs with opened stale expired
  · simp [opened]
  · obtain ⟨change, remembered, notLater⟩ := (Option.any_eq_true _ _).mp stale
    have notLater : openedWall ≤ change := by simpa using notLater
    refine iff_of_false not_false fun later => ?_
    exact not_lt_of_ge notLater (later.2.2 change remembered)
  · exact iff_of_false not_false fun young => Nat.not_lt.mpr expired young.2.1
  · refine iff_of_true rfl ⟨opened, Nat.not_le.mp expired, fun change remembered => ?_⟩
    exact not_le.mp (by simpa [remembered] using stale)

/-- An opening that is adopted is later than the last change. -/
theorem turns_adopt (openedWall : Timestamp) :
    breaker.Turns (fun target wall => target = .opened ∧ wall = openedWall ∧
        ∀ change, breaker.lastChange = some change → change < openedWall)
      (breaker.adopt openedWall moment) := by
  rcases adopt_cases openedWall moment breaker with refused | ⟨-, adopted⟩
  · rw [refused]
    exact turns_keep breaker rfl rfl
  · have granted : (breaker.adopt openedWall moment).granted = true := by
      rw [adopted]
      rfl
    have later := ((adopt_granted_iff openedWall moment breaker).1 granted).2.2
    rw [adopted]
    exact .turned .opened openedWall ⟨rfl, rfl, later⟩ rfl rfl

end Breaker

/-! ## Banks -/

namespace Bank

/-- The mark of a provider's breaker, that of a fresh one if there is none. -/
def mark (bank : Bank) (provider : String) : Mark := (bank.getOrFresh provider).mark

/-- An operation leaves all marks of a bank alone, or turns one breaker as it may and reports
that. -/
inductive Turns (bank : Bank) (may : String → Phase → Timestamp → Prop) (after : Bank)
    (events : List Event) : Prop where
  /-- Nothing changes, and rejections at most are reported. -/
  | still (marks : ∀ name, after.mark name = bank.mark name)
      (silent : ∀ event ∈ events, event.notice = .rejected)
  /-- One breaker changes its phase, and that is reported. -/
  | turned (provider : String) (origin target : Phase) (wall : Timestamp) (may : may provider target wall)
      (marks : ∀ name, after.mark name =
        if provider = name then (bank.mark name).turn target wall else bank.mark name)
      (told : events = [⟨provider, .changed ⟨origin, target, wall⟩⟩])

variable {bank : Bank} {provider : String} {may : String → Phase → Timestamp → Prop} {moment : Moment}

theorem Turns.imp {also : String → Phase → Timestamp → Prop} {after : Bank} {events : List Event}
    (turns : bank.Turns may after events)
    (implies : ∀ provider origin target wall,
      events = [⟨provider, .changed ⟨origin, target, wall⟩⟩] →
        may provider target wall → also provider target wall) :
    bank.Turns also after events := by
  cases turns with
  | still marks silent => exact .still marks silent
  | turned provider origin target wall may marks told =>
      exact .turned provider origin target wall (implies _ _ _ _ told may) marks told

theorem mark_put (bank : Bank) (provider name : String) (breaker : Breaker) :
    (bank.put provider breaker).mark name =
      if provider = name then breaker.mark else bank.mark name := by
  unfold mark
  rw [getOrFresh_put]
  split <;> rfl

theorem turns_settle {outcome : Breaker.Outcome}
    (turns : (bank.getOrFresh provider).Turns (may provider) outcome) :
    bank.Turns may (bank.settle provider outcome).bank (bank.settle provider outcome).events := by
  cases turns with
  | still same silent =>
      refine .still (fun name => ?_) ?_
      · rw [settle, mark_put]
        split
        · rename_i here
          rw [same, ← here]
          rfl
        · rfl
      · intro event member
        obtain ⟨notice, among, rfl⟩ := List.mem_map.1 member
        exact silent notice among
  | turned target wall allowed turned told =>
      refine .turned provider _ target wall allowed (fun name => ?_) (by rw [settle, told]; rfl)
      rw [settle, mark_put]
      split
      · rename_i here
        rw [turned, ← here]
        rfl
      · rfl

/-- What only adjusts breakers turns none. -/
theorem turns_of_isQuiet {operation : BankOperation} (quiet : operation.IsQuiet) (bank : Bank)
    (moment : Moment) :
    bank.Turns may (bank.apply operation moment).bank (bank.apply operation moment).events := by
  obtain ⟨silent, adjusted⟩ := adjusted_of_isQuiet quiet bank moment
  rw [silent]
  refine .still (fun name => ?_) (List.forall_mem_nil _)
  obtain ⟨thresholds, window, same⟩ := adjusted name
  rw [mark, same]
  rfl

end Bank

/-- An operation that neither resets breakers nor adopts openings. -/
def BankOperation.IsLocal : BankOperation → Prop
  | .allow _ | .record _ _ | .bypass _ _ => True
  | .setDefault _ | .setProvider _ _ | .snapshot _ | .snapshots => True
  | .reset _ | .resetAll | .adopt _ _ => False

namespace Bank

variable (bank : Bank) (moment : Moment)

/-- By what is done locally a breaker turns at the time at which it is done, and opens by a failed
call only. -/
theorem turns_of_isLocal {operation : BankOperation} (isLocal : operation.IsLocal) :
    bank.Turns (fun provider target wall => wall = moment.wall ∧
        (target = .opened → operation = .record provider false))
      (bank.apply operation moment).bank (bank.apply operation moment).events := by
  cases operation with
  | allow provider =>
      change bank.Turns _ (bank.allow provider moment).bank (bank.allow provider moment).events
      unfold allow
      split
      · rename_i breaker held
        refine turns_settle ?_
        rw [getOrFresh_of_some held]
        exact (breaker.turns_allow moment).imp fun _ _ may =>
          ⟨may.1, fun opened => absurd opened may.2⟩
      · exact .still (fun _ => rfl) (List.forall_mem_nil _)
  | record provider succeeded =>
      refine turns_settle ?_
      cases succeeded with
      | true =>
          exact (Breaker.turns_recordSuccess _ moment).imp fun _ _ may =>
            ⟨may.1, fun opened => absurd opened may.2⟩
      | false =>
          exact (Breaker.turns_recordFailure _ moment).imp fun _ _ now => ⟨now, fun _ => rfl⟩
  | bypass provider succeeded =>
      refine turns_settle ?_
      exact (Breaker.turns_recordBypass _ moment succeeded).imp fun _ _ never => never.elim
  | setDefault _ | setProvider _ _ | snapshot _ | snapshots =>
      refine turns_of_isQuiet ?_ bank moment
      trivial
  | reset _ | resetAll | adopt _ _ => exact absurd isLocal id

/-- A breaker that adopts an opening turns at the time of the opening. -/
theorem turns_adopt (provider : String) (openedWall : Timestamp) :
    bank.Turns (fun name target wall => name = provider ∧ target = .opened ∧ wall = openedWall ∧
        ∀ change, (bank.mark name).lastChange = some change → change < openedWall)
      (bank.adopt provider openedWall moment).bank
      (bank.adopt provider openedWall moment).events :=
  turns_settle ((Breaker.turns_adopt _ moment openedWall).imp fun _ _ may => ⟨rfl, may⟩)

end Bank

end ProviderRouting
