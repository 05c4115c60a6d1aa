import ProviderRouting.Proofs.Breaker.Turning

/-!
# Stale openings

An opening seen elsewhere must be later than the last change of phase that the breaker remembers.
Whatever is done with a breaker, it remembers the last change that it told its observers, with one
exception: the reset of a breaker that is closed tells them nothing and makes the breaker forget.
From then until its next change a breaker adopts openings that are older than what it has told.
-/

namespace ProviderRouting

open Breaker (Operation)

/-- What the observers of a breaker see of one operation. -/
structure WatchEntry where
  operation : Operation
  /-- The phase before. -/
  origin : Phase
  /-- The changes of phase that they are told. -/
  told : List Transition
deriving DecidableEq

namespace WatchEntry

/-- Whether the entry is the reset of a closed breaker. -/
def Forgets (entry : WatchEntry) : Prop := entry.operation = .reset ∧ entry.origin = .closed

end WatchEntry

/-- The last change of phase that observers were told. -/
def lastTold (history : List WatchEntry) : Option Transition :=
  (history.flatMap (·.told)).getLast?

/-- A closed breaker was reset, and has told its observers of no change since. -/
def Forgotten (history : List WatchEntry) : Prop :=
  ∃ earlier entry later, history = earlier ++ entry :: later ∧ entry.Forgets ∧
    ∀ other ∈ later, other.told = []

/-- A breaker with its observers. -/
structure Watch where
  moment : Moment
  breaker : Breaker
  /-- What the observers have seen, oldest first. -/
  history : List WatchEntry

/-- One step of a watched breaker. -/
inductive WatchStep where
  /-- The clock comes to show something else. -/
  | read (moment : Moment)
  /-- The thresholds are replaced. -/
  | configure (thresholds : Thresholds)
  /-- An operation is carried out. -/
  | perform (operation : Operation)

section History

variable {history : List WatchEntry} {newest : WatchEntry}

theorem lastTold_append (history : List WatchEntry) (newest : WatchEntry) :
    lastTold (history ++ [newest]) = newest.told.getLast?.or (lastTold history) := by
  simp [lastTold, List.getLast?_append]

theorem lastTold_append_of_silent (silent : newest.told = []) :
    lastTold (history ++ [newest]) = lastTold history := by
  rw [lastTold_append, silent]
  rfl

theorem forgotten_of_forgets (history : List WatchEntry) (forgets : newest.Forgets) :
    Forgotten (history ++ [newest]) :=
  ⟨history, newest, [], rfl, forgets, by simp⟩

theorem forgotten_append_of_told {transition : Transition}
    (told : newest.told = [transition]) (remembers : ¬newest.Forgets) :
    ¬Forgotten (history ++ [newest]) := by
  rintro ⟨earlier, entry, later, split, forgets, silent⟩
  rcases List.eq_nil_or_concat later with rfl | ⟨later, last, rfl⟩
  · obtain ⟨-, rfl⟩ := List.append_inj' split rfl |>.imp_right List.singleton_inj.mp
    exact remembers forgets
  · rw [List.concat_eq_append, ← List.cons_append, ← List.append_assoc] at split
    obtain ⟨-, rfl⟩ := List.append_inj' split rfl |>.imp_right List.singleton_inj.mp
    simp [silent newest (by simp)] at told

theorem forgotten_append_of_silent (silent : newest.told = []) (remembers : ¬newest.Forgets) :
    Forgotten (history ++ [newest]) ↔ Forgotten history := by
  constructor
  · rintro ⟨earlier, entry, later, split, forgets, none⟩
    rcases List.eq_nil_or_concat later with rfl | ⟨later, last, rfl⟩
    · obtain ⟨-, rfl⟩ := List.append_inj' split rfl |>.imp_right List.singleton_inj.mp
      exact absurd forgets remembers
    · rw [List.concat_eq_append, ← List.cons_append, ← List.append_assoc] at split
      obtain ⟨rfl, -⟩ := List.append_inj' split rfl
      exact ⟨earlier, entry, later, rfl, forgets, fun other member => none other (by simp [member])⟩
  · rintro ⟨earlier, entry, later, rfl, forgets, none⟩
    refine ⟨earlier, entry, later ++ [newest], by simp, forgets, ?_⟩
    intro other member
    rcases List.mem_append.mp member with old | new
    · exact none other old
    · obtain rfl := List.mem_singleton.mp new
      exact silent

end History

namespace Breaker

variable {moment : Moment} {breaker : Breaker}

/-- What an operation does to the last change of phase that a breaker remembers. -/
inductive Recalls (operation : Operation) (breaker : Breaker) (after : Outcome) : Prop where
  /-- The observers are told of one change, and the breaker remembers it. -/
  | told (transition : Transition) (told : after.told = [transition])
      (remembers : ¬(operation = .reset ∧ breaker.phase = .closed))
      (recalled : after.breaker.lastChange = some transition.wall)
  /-- They are told of none, and the breaker remembers what it did. -/
  | silent (silent : after.told = []) (remembers : ¬(operation = .reset ∧ breaker.phase = .closed))
      (recalled : after.breaker.lastChange = breaker.lastChange)
  /-- A closed breaker is reset and remembers no change. -/
  | forgets (reset : operation = .reset) (closed : breaker.phase = .closed)
      (silent : after.told = []) (recalled : after.breaker.lastChange = none)

theorem told_of_silent {outcome : Outcome}
    (silent : ∀ notice ∈ outcome.notices, notice = .rejected) : outcome.told = [] := by
  refine List.filterMap_eq_nil_iff.2 fun notice among => ?_
  rw [silent notice among]
  rfl

/-- What turns as its observers are told remembers what they are told. -/
theorem Turns.recalls {operation : Operation} {may : Phase → Timestamp → Prop} {outcome : Outcome}
    (turns : breaker.Turns may outcome) (kept : operation ≠ .reset) :
    Recalls operation breaker outcome := by
  have remembers : ¬(operation = .reset ∧ breaker.phase = .closed) :=
    fun forgets => kept forgets.1
  cases turns with
  | still mark silent =>
      exact .silent (told_of_silent silent) remembers (congrArg Mark.lastChange mark)
  | turned target wall _ mark told =>
      refine .told ⟨breaker.phase, target, wall⟩ ?_ remembers (congrArg Mark.lastChange mark)
      rw [Outcome.told, told]
      rfl

theorem reset_recalls (moment : Moment) (breaker : Breaker) :
    Recalls .reset breaker (breaker.reset moment) := by
  unfold reset
  split_ifs with closed
  · exact .forgets rfl closed rfl rfl
  · exact .told ⟨breaker.phase, .closed, moment.wall⟩ rfl (fun forgets => closed forgets.2) rfl

theorem apply_recalls (operation : Operation) (moment : Moment) (breaker : Breaker) :
    Recalls operation breaker (breaker.apply operation moment) := by
  by_cases reset : operation = .reset
  · subst reset
    exact reset_recalls moment breaker
  cases operation with
  | allow => exact (breaker.turns_allow moment).recalls reset
  | success => exact (breaker.turns_recordSuccess moment).recalls reset
  | failure => exact (breaker.turns_recordFailure moment).recalls reset
  | bypass succeeded => exact (breaker.turns_recordBypass moment succeeded).recalls reset
  | snapshot => exact (breaker.turns_prune moment).recalls reset
  | adopt openedWall => exact (breaker.turns_adopt moment openedWall).recalls reset
  | reset => exact absurd rfl reset

end Breaker

namespace Watch

/-- A fresh breaker that nobody has seen anything of. -/
def start (thresholds : Thresholds) (moment : Moment) : Watch := ⟨moment, .fresh thresholds, []⟩

/-- What an operation would leave if it were carried out now. -/
def outcome (operation : Operation) (watch : Watch) : Breaker.Outcome :=
  watch.breaker.apply operation watch.moment

/-- What the observers would see of an operation if it were carried out now. -/
def entry (operation : Operation) (watch : Watch) : WatchEntry :=
  ⟨operation, watch.breaker.phase, (watch.outcome operation).told⟩

/-- Take one step. -/
def next (watch : Watch) : WatchStep → Watch
  | .read moment => { watch with moment := moment }
  | .configure thresholds => { watch with breaker := watch.breaker.setThresholds thresholds }
  | .perform operation =>
    { watch with
      breaker := (watch.outcome operation).breaker
      history := watch.history ++ [watch.entry operation] }

/-- A fresh breaker after some steps. -/
def run (thresholds : Thresholds) (moment : Moment) (steps : List WatchStep) : Watch :=
  steps.foldl next (start thresholds moment)

/-- The breaker remembers the last change of phase that it told, unless it was made to forget. -/
structure Recollects (watch : Watch) : Prop where
  forgotten : Forgotten watch.history → watch.breaker.lastChange = none
  remembered : ¬Forgotten watch.history →
    watch.breaker.lastChange = (lastTold watch.history).map (·.wall)

variable {watch : Watch}

theorem Recollects.perform (recollects : watch.Recollects) (operation : Operation) :
    (watch.next (.perform operation)).Recollects := by
  rcases Breaker.apply_recalls operation watch.moment watch.breaker with
    ⟨transition, told, remembers, recalled⟩ | ⟨silent, remembers, recalled⟩ |
    ⟨reset, closed, silent, recalled⟩
  · have kept : ¬Forgotten (watch.history ++ [watch.entry operation]) :=
      forgotten_append_of_told told remembers
    have last : lastTold (watch.history ++ [watch.entry operation]) = some transition := by
      rw [lastTold_append, show (watch.entry operation).told = [transition] from told]
      rfl
    refine ⟨fun forgotten => absurd forgotten kept, fun _ => recalled.trans ?_⟩
    exact (congrArg (Option.map (·.wall)) last).symm
  · have same : Forgotten (watch.history ++ [watch.entry operation]) ↔ Forgotten watch.history :=
      forgotten_append_of_silent silent remembers
    have last : lastTold (watch.history ++ [watch.entry operation]) = lastTold watch.history :=
      lastTold_append_of_silent silent
    constructor
    · exact fun forgotten => recalled.trans (recollects.forgotten (same.mp forgotten))
    · intro remembered
      refine recalled.trans ((recollects.remembered (mt same.mpr remembered)).trans ?_)
      exact (congrArg (Option.map (·.wall)) last).symm
  · have forgotten : Forgotten (watch.history ++ [watch.entry operation]) :=
      forgotten_of_forgets watch.history ⟨reset, closed⟩
    exact ⟨fun _ => recalled, fun remembered => absurd forgotten remembered⟩

theorem recollects_run (thresholds : Thresholds) (moment : Moment) (steps : List WatchStep) :
    (run thresholds moment steps).Recollects := by
  induction steps using List.reverseRecOn with
  | nil => exact ⟨fun _ => rfl, fun _ => rfl⟩
  | append_singleton steps step ih =>
      rw [run, List.foldl_append]
      cases step with
      | read moment => exact ⟨ih.forgotten, ih.remembered⟩
      | configure thresholds => exact ⟨ih.forgotten, ih.remembered⟩
      | perform operation => exact ih.perform operation

/-! ## The law of adoption -/

/-- Whatever was done with a breaker, whatever its thresholds became and whatever its clock showed:
it adopts an opening exactly if it is not open, the timeout has not passed since the opening, and
the opening is later than the last change of phase that its observers were told; the last condition
falls away once a closed breaker was reset, until it tells of a change again. -/
theorem adoption_law (thresholds : Thresholds) (moment : Moment) (steps : List WatchStep)
    (openedWall : Timestamp) :
    let watch := run thresholds moment steps
    (watch.outcome (.adopt openedWall)).granted = true ↔
      watch.breaker.phase ≠ .opened ∧
        openedWall.age watch.moment.wall < watch.breaker.thresholds.timeout ∧
        (Forgotten watch.history ∨
          ∀ change, lastTold watch.history = some change → change.wall < openedWall) := by
  intro watch
  have recollects : watch.Recollects := recollects_run thresholds moment steps
  refine (Breaker.adopt_granted_iff openedWall watch.moment watch.breaker).trans ?_
  refine and_congr_right fun _ => and_congr_right fun _ => ?_
  by_cases forgotten : Forgotten watch.history
  · simp [recollects.forgotten forgotten, forgotten]
  · simp [recollects.remembered forgotten, forgotten]

/-- A breaker that opened, was reset after ten seconds, and was reset once more adopts an opening
of the fifth second. -/
theorem stale_opening_adopted :
    let second (count : Nat) : Timestamp := .ofNanoseconds (Duration.ofSeconds count)
    let watch := run { Thresholds.standard with failures := 1 } Clock.start.moment
      [.perform .failure, .read ⟨Duration.ofSeconds 10, second 10⟩, .perform .reset,
        .perform .reset]
    lastTold watch.history = some ⟨.opened, .closed, second 10⟩ ∧ second 5 < second 10 ∧
      (watch.outcome (.adopt (second 5))).granted = true := by
  decide

end Watch

end ProviderRouting
