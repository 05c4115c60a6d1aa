import ProviderRouting.Breaker.Phase
import ProviderRouting.Breaker.Thresholds
import ProviderRouting.Breaker.Window
import ProviderRouting.Time.Clock

/-!
# Breakers

A breaker guards the calls to one provider.  It opens on too many consecutive failures or on too
large a failing fraction of its window, rejects calls until its timeout has passed, and then
admits single probes until enough of them have succeeded or one has failed.  The step from open to
half-open is made by the call that is admitted as the first probe, not by a timer.

Every operation is a function of the breaker and of the moment at which it happens, and returns
what observers are told about it.
-/

namespace ProviderRouting

/-- A change of phase. -/
structure Transition where
  /-- The phase before. -/
  origin : Phase
  /-- The phase after. -/
  target : Phase
  /-- The wall time of the change. -/
  wall : Timestamp
deriving DecidableEq

/-- What the observers of a breaker are told. -/
inductive Notice where
  /-- The phase changed. -/
  | changed (transition : Transition)
  /-- A call was rejected. -/
  | rejected
deriving DecidableEq

/-- The breaker of one provider. -/
structure Breaker where
  /-- When it opens and closes. -/
  thresholds : Thresholds
  /-- Its phase. -/
  phase : Phase
  /-- Failures since the last success. -/
  failures : Nat
  /-- Successful probes since it became half-open. -/
  successes : Nat
  /-- The latest outcomes. -/
  window : Window
  /-- When it last opened, on the monotonic reading; cleared by closing. -/
  openedAt : Option Int
  /-- When it last opened, on the wall. -/
  openedWall : Option Timestamp
  /-- The wall time of its last change of phase. -/
  lastChange : Option Timestamp
  /-- When the probe was admitted whose outcome is still missing. -/
  probe : Option Int
  /-- Successes recorded so far. -/
  totalSuccesses : Nat
  /-- Failures recorded so far. -/
  totalFailures : Nat
  /-- Calls rejected so far. -/
  rejections : Nat
  /-- How often it opened. -/
  timesOpened : Nat

/-- What an operation leaves: the breaker, whether the operation was granted, and what the
observers are told. -/
structure Breaker.Outcome where
  /-- The breaker afterwards. -/
  breaker : Breaker
  /-- Whether the call was admitted, the opening adopted or the outcome recorded. -/
  granted : Bool
  /-- What the observers are told, in order. -/
  notices : List Notice

namespace Breaker

/-- A closed breaker without history. -/
def fresh (thresholds : Thresholds) : Breaker where
  thresholds := thresholds
  phase := .closed
  failures := 0
  successes := 0
  window := .empty
  openedAt := none
  openedWall := none
  lastChange := none
  probe := none
  totalSuccesses := 0
  totalFailures := 0
  rejections := 0
  timesOpened := 0

instance : Inhabited Breaker := ⟨fresh .standard⟩

/-- The largest number of consecutive failures that is counted. -/
def failureLimit : Nat := UInt32.size - 1

/-- Enter another phase at a moment. -/
def enter (target : Phase) (moment : Moment) (breaker : Breaker) : Breaker :=
  match target with
  | .opened =>
    { breaker with
      phase := .opened
      lastChange := some moment.wall
      openedAt := some moment.instant
      openedWall := some moment.wall
      successes := 0
      probe := none
      timesOpened := breaker.timesOpened + 1 }
  | .halfOpen =>
    { breaker with
      phase := .halfOpen
      lastChange := some moment.wall
      successes := 0
      probe := none }
  | .closed =>
    { breaker with
      phase := .closed
      lastChange := some moment.wall
      failures := 0
      successes := 0
      probe := none
      openedAt := none
      window := .empty }

/-- The notice of entering another phase. -/
def entering (target : Phase) (moment : Moment) (breaker : Breaker) : Notice :=
  .changed ⟨breaker.phase, target, moment.wall⟩

/-- Enter another phase and tell the observers. -/
def switch (target : Phase) (moment : Moment) (breaker : Breaker) : Outcome :=
  ⟨breaker.enter target moment, true, [breaker.entering target moment]⟩

/-- Stay as it is, granting the operation. -/
def keep (breaker : Breaker) : Outcome := ⟨breaker, true, []⟩

/-- Reject a call. -/
def reject (breaker : Breaker) : Outcome :=
  ⟨{ breaker with rejections := breaker.rejections + 1 }, false, [.rejected]⟩

/-- Hand the probe slot to the call being admitted now. -/
def admitProbe (now : Int) (breaker : Breaker) : Breaker := { breaker with probe := some now }

/-- Whether an open breaker has waited long enough. -/
def due (now : Int) (breaker : Breaker) : Bool :=
  match breaker.openedAt with
  | some opened => breaker.thresholds.timeout ≤ elapsedSince now opened
  | none => true

/-- Whether the probe slot is held by a probe younger than the timeout. -/
def probing (now : Int) (breaker : Breaker) : Bool :=
  match breaker.probe with
  | some admitted => elapsedSince now admitted < breaker.thresholds.timeout
  | none => false

/-- Ask whether a call may proceed.  A closed breaker admits it.  An open one rejects it until its
timeout has passed, and then becomes half-open and admits it as the probe.  A half-open one admits
it when no younger probe holds the slot. -/
def allow (moment : Moment) (breaker : Breaker) : Outcome :=
  match breaker.phase with
  | .closed => breaker.keep
  | .opened =>
    if breaker.due moment.instant then
      let outcome := breaker.switch .halfOpen moment
      { outcome with breaker := outcome.breaker.admitProbe moment.instant }
    else breaker.reject
  | .halfOpen =>
    if breaker.probing moment.instant then breaker.reject
    else (breaker.admitProbe moment.instant).keep

/-- Count an outcome in the totals and in the window. -/
def tally (succeeded : Bool) (moment : Moment) (breaker : Breaker) : Breaker :=
  { breaker with
    totalSuccesses := breaker.totalSuccesses + succeeded.toNat
    totalFailures := breaker.totalFailures + (!succeeded).toNat
    window := breaker.window.record breaker.thresholds.horizon moment.instant succeeded }

/-- Record a successful call.  It ends a run of failures, or counts as a successful probe. -/
def recordSuccess (moment : Moment) (breaker : Breaker) : Outcome :=
  let counted := breaker.tally true moment
  match breaker.phase with
  | .closed => { counted with failures := 0 }.keep
  | .halfOpen =>
    let probed := { counted with probe := none, successes := breaker.successes + 1 }
    if breaker.thresholds.successes.toNat ≤ probed.successes then probed.switch .closed moment
    else probed.keep
  | .opened => counted.keep

/-- Whether the failing fraction of the window calls for opening. -/
def rateExceeded (breaker : Breaker) : Bool :=
  breaker.thresholds.minimumSamples.toNat ≤ breaker.window.size
    && breaker.window.failureRate > breaker.thresholds.rate

/-- Record a failed call.  It may open a closed breaker and opens a half-open one. -/
def recordFailure (moment : Moment) (breaker : Breaker) : Outcome :=
  let counted := breaker.tally false moment
  let failed := { counted with failures := min (breaker.failures + 1) failureLimit }
  match breaker.phase with
  | .closed =>
    if breaker.thresholds.failures.toNat ≤ failed.failures || failed.rateExceeded then
      failed.switch .opened moment
    else failed.keep
  | .halfOpen => failed.switch .opened moment
  | .opened => failed.keep

/-- Record a call that was made without asking: it counts in the totals and in the window only. -/
def recordBypass (succeeded : Bool) (moment : Moment) (breaker : Breaker) : Outcome :=
  (breaker.tally succeeded moment).keep

/-- Return to a closed breaker without history.  Only the time of the change this makes is kept. -/
def reset (moment : Moment) (breaker : Breaker) : Outcome :=
  if breaker.phase = .closed then (fresh breaker.thresholds).keep
  else
    ⟨{ fresh breaker.thresholds with lastChange := some moment.wall }, true,
      [breaker.entering .closed moment]⟩

/-- Adopt an opening that another instance saw.  It is adopted when the breaker is not open, the
opening is later than the last change of phase, and its timeout has not passed; the breaker then
counts as open since as long ago as the opening.  Instants have a sign, so that there is an instant
less than a timeout ago even if the clock was made after it. -/
def adopt (openedWall : Timestamp) (moment : Moment) (breaker : Breaker) : Outcome :=
  let age := openedWall.age moment.wall
  if breaker.phase = .opened then ⟨breaker, false, []⟩
  else if breaker.lastChange.any (openedWall ≤ ·) then ⟨breaker, false, []⟩
  else if breaker.thresholds.timeout ≤ age then ⟨breaker, false, []⟩
  else breaker.switch .opened ⟨moment.instant - age, openedWall⟩

/-- Replace the thresholds; everything else is kept. -/
def setThresholds (thresholds : Thresholds) (breaker : Breaker) : Breaker :=
  { breaker with thresholds := thresholds }

/-- Drop what is too old from the window. -/
def prune (moment : Moment) (breaker : Breaker) : Breaker :=
  { breaker with window := breaker.window.prune breaker.thresholds.horizon moment.instant }

end Breaker

end ProviderRouting
