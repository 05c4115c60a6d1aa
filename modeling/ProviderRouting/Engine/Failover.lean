import ProviderRouting.Engine.Basic
import ProviderRouting.Engine.Report

/-!
# Failover runs

A failover run plans the attempts for a request and makes them in order until one succeeds.  An
attempt whose breaker rejects it is skipped.  When every examined attempt was skipped, the first
one is called all the same, once, and its outcome counts in the totals and the window only.

What providers do during calls is not part of the engine.  A `Caller` stands for it: it may change
the engine while a call is in flight, it decides how the call ends, and it says whether the run has
been told to stop.  A run whose call never ends is dropped; like a cancelled call that counts as a
failure.
-/

namespace ProviderRouting

/-- How a call ends. -/
inductive CallEnd where
  /-- The provider gives a response. -/
  | succeeded (response : String)
  /-- The provider gives an error. -/
  | failed (error : String)
  /-- The run is told to stop before the call has ended. -/
  | cancelled
  /-- The call has not ended when the run is dropped. -/
  | dropped
deriving DecidableEq

/-- What a call leaves. -/
structure CallReport (σ : Type) where
  /-- The state of the caller afterwards. -/
  state : σ
  /-- The engine afterwards, with everything that happened while the call was in flight. -/
  engine : Engine
  /-- How the call ended. -/
  ending : CallEnd

/-- Whoever makes the calls of a run. -/
structure Caller (σ : Type) where
  /-- Whether the run has been told to stop. -/
  stopped : σ → Engine → Bool
  /-- Make a call. -/
  call : Attempt → σ → Engine → CallReport σ

/-- How far a run has come. -/
structure RunProgress (σ : Type) where
  /-- The engine. -/
  engine : Engine
  /-- The state of the caller. -/
  state : σ
  /-- What has been examined. -/
  report : RunReport

/-- What a run does after an attempt. -/
inductive RunMove where
  /-- It takes the next attempt. -/
  | next
  /-- It is over. -/
  | over
  /-- It was dropped with a call in flight. -/
  | dropped
deriving DecidableEq

/-- The end of a run. -/
inductive RunEnd where
  /-- The run came to its end. -/
  | finished (report : RunReport)
  /-- The run was dropped with a call in flight. -/
  | dropped
deriving DecidableEq

/-- Count the outcome of a call with the breaker, the health statistics and the metrics.  A call of
last resort did not ask its breaker, so it bypasses it. -/
def Engine.recordOutcome (provider : String) (succeeded : Bool) (latency : Duration)
    (lastResort : Bool) (engine : Engine) : Engine :=
  let operation :=
    if lastResort then BankOperation.bypass provider succeeded
    else BankOperation.record provider succeeded
  (engine.onBank operation).1
    |>.onHealth (·.record provider succeeded latency)
    |>.onMetrics (·.recordCall provider succeeded latency)

namespace RunProgress

variable {σ : Type}

/-- Add the record of an attempt to the report. -/
def push (attempt : Attempt) (outcome : AttemptOutcome) (latency : Option Duration)
    (lastResort : Bool) (report : RunReport) : RunReport :=
  { report with
    records := report.records ++
      [⟨attempt.provider, attempt.providerModel, attempt.rank, outcome, latency, lastResort⟩] }

/-- Add the record of a call to the report; it counts as tried. -/
def pushCall (attempt : Attempt) (outcome : AttemptOutcome) (latency : Duration)
    (lastResort : Bool) (report : RunReport) : RunReport :=
  { push attempt outcome (some latency) lastResort report with tried := report.tried + 1 }

/-- Skip an attempt that its breaker rejected. -/
def skip (attempt : Attempt) (progress : RunProgress σ) : RunProgress σ :=
  { progress with report := push attempt .skipped none false progress.report }

/-- Make the call of an attempt and record its outcome. -/
def dispatch (caller : Caller σ) (attempt : Attempt) (lastResort : Bool)
    (progress : RunProgress σ) : RunProgress σ × RunMove :=
  let started := progress.engine.clock.moment.instant
  let called := caller.call attempt progress.state progress.engine
  let latency := elapsedSince called.engine.clock.moment.instant started
  let record (succeeded : Bool) : Engine :=
    called.engine.recordOutcome attempt.provider succeeded latency lastResort
  match called.ending with
  | .succeeded response =>
    let report := pushCall attempt .succeeded latency lastResort progress.report
    (⟨record true, called.state, report.succeed attempt.provider response⟩, .over)
  | .failed error =>
    let report := pushCall attempt (.failed error) latency lastResort progress.report
    (⟨record false, called.state, report⟩, .next)
  | .cancelled =>
    let report := pushCall attempt .cancelled latency lastResort progress.report
    (⟨record false, called.state, { report with cancelled := true }⟩, .over)
  | .dropped =>
    (⟨(record false).count .cancellations, called.state, progress.report⟩, .dropped)

/-- Examine planned attempts in order.  Every attempt but the first of the run is a fallback. -/
def walk (caller : Caller σ) : (first : Bool) → List Attempt → RunProgress σ →
    RunProgress σ × RunMove
  | _, [], progress => (progress, .next)
  | first, attempt :: rest, progress =>
    if caller.stopped progress.state progress.engine then
      ({ progress with report := { progress.report with cancelled := true } }, .over)
    else
      let engine := if first then progress.engine else progress.engine.count .fallbacks
      let (engine, admitted) := engine.onBank (.allow attempt.provider)
      let progress := { progress with engine := engine }
      if admitted then
        match dispatch caller attempt false progress with
        | (progress, .next) => walk caller false rest progress
        | stopped => stopped
      else walk caller false rest (progress.skip attempt)

/-- Call the best attempt if nothing was called and the run was not cancelled. -/
def lastResort (caller : Caller σ) (examined : List Attempt) (progress : RunProgress σ) :
    RunProgress σ × RunMove :=
  match examined with
  | best :: _ =>
    if progress.report.tried = 0 ∧ !progress.report.cancelled then
      dispatch caller best true
        { progress with engine := progress.engine.count .lastResorts }
    else (progress, .over)
  | [] => (progress, .over)

/-- Count how a run ended. -/
def close (progress : RunProgress σ) : Engine :=
  if progress.report.cancelled then progress.engine.count .cancellations
  else if progress.report.success then progress.engine.count .runSuccesses
  else progress.engine

/-- Make the attempts of a plan, at most `limit` of them and at least one. -/
def runPlan (caller : Caller σ) (model : String) (plan : List Attempt) (limit : Nat) (state : σ)
    (engine : Engine) : Engine × σ × RunEnd :=
  let examined := plan.take (max limit 1)
  let start : RunProgress σ := ⟨engine.count .runs, state, .empty model⟩
  match walk caller true examined start with
  | (progress, .dropped) => (progress.engine, progress.state, .dropped)
  | (progress, _) =>
    match lastResort caller examined progress with
    | (progress, .dropped) => (progress.engine, progress.state, .dropped)
    | (progress, _) => (progress.close, progress.state, .finished progress.report)

end RunProgress

/-- Plan a request and make its attempts, at most `limit` of them. -/
def Engine.failover {σ : Type} (caller : Caller σ) (request : PlanRequest) (limit : Nat)
    (state : σ) (engine : Engine) : Engine × σ × Except RoutingError RunEnd :=
  match engine.plan request with
  | (engine, .error fault) => (engine, state, .error fault)
  | (engine, .ok plan) =>
    let (engine, state, ending) :=
      RunProgress.runPlan caller request.model plan limit state engine
    (engine, state, .ok ending)

end ProviderRouting
