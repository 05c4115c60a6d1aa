import Mathlib.Logic.Relation
import ProviderRouting.Engine.Failover

/-!
# Failover runs step by step

Runs share an engine, and while a call of one run is in flight others go on.  A run is therefore
taken apart into steps: it examines one attempt, or a call of its comes to an end.  It also keeps
the events that an onlooker would see.  Carried out one after another, with nothing but the caller
in between, the steps make up `Engine.failover`.
-/

namespace ProviderRouting

/-- What an onlooker sees of a run. -/
inductive RunEvent where
  /-- The run noticed that it was told to stop. -/
  | stopped
  /-- The breaker of an attempt was asked. -/
  | asked (attempt : Attempt) (admitted : Bool)
  /-- The provider of an attempt was called. -/
  | called (attempt : Attempt) (lastResort : Bool)
  /-- The call came to an end. -/
  | ended (ending : CallEnd)
deriving DecidableEq

namespace RunEvent

/-- The attempt whose breaker was asked, with the answer. -/
def ask? : RunEvent → Option (Attempt × Bool)
  | asked attempt admitted => some (attempt, admitted)
  | _ => none

/-- The attempt whose provider was called, and whether that was the last resort. -/
def call? : RunEvent → Option (Attempt × Bool)
  | called attempt lastResort => some (attempt, lastResort)
  | _ => none

end RunEvent

/-- Where a run stands. -/
inductive RunPlace where
  /-- Some attempts are still to be examined. -/
  | examining (rest : List Attempt)
  /-- A call is in flight. -/
  | calling (attempt : Attempt) (lastResort : Bool) (started : Int) (rest : List Attempt)
  /-- The run came to its end. -/
  | finished
  /-- The run was dropped with a call in flight. -/
  | dropped (attempt : Attempt)

/-- A run under way. -/
structure Run where
  /-- The planned attempts that it examines at most. -/
  examined : List Attempt
  /-- Where it stands. -/
  place : RunPlace
  /-- What it has to report so far. -/
  report : RunReport
  /-- What happened in it, oldest first. -/
  events : List RunEvent

namespace Run

/-- The attempts whose breakers were asked, with the answers. -/
def asks (run : Run) : List (Attempt × Bool) := run.events.filterMap RunEvent.ask?

/-- The attempts whose providers were called, and whether that was the last resort. -/
def calls (run : Run) : List (Attempt × Bool) := run.events.filterMap RunEvent.call?

/-- Begin to make the attempts of a plan, at most `limit` of them and at least one. -/
def begin (model : String) (plan : List Attempt) (limit : Nat) (engine : Engine) : Engine × Run :=
  let examined := plan.take (max limit 1)
  (engine.count .runs, ⟨examined, .examining examined, .empty model, []⟩)

/-- Keep one more event. -/
def note (event : RunEvent) (run : Run) : Run := { run with events := run.events ++ [event] }

/-- Come to the end and count how. -/
def finish (engine : Engine) (run : Run) : Engine × Run :=
  (RunProgress.close ⟨engine, (), run.report⟩, { run with place := .finished })

/-- Give up because the run was told to stop. -/
def stop (engine : Engine) (run : Run) : Engine × Run :=
  { run.note .stopped with report := { run.report with cancelled := true } }.finish engine

/-- Start a call. -/
def dial (attempt : Attempt) (lastResort : Bool) (rest : List Attempt) (engine : Engine)
    (run : Run) : Engine × Run :=
  (engine,
    { run.note (.called attempt lastResort) with
      place := .calling attempt lastResort engine.clock.moment.instant rest })

/-- Skip an attempt. -/
def skip (attempt : Attempt) (rest : List Attempt) (engine : Engine) (run : Run) : Engine × Run :=
  (engine,
    { run with
      place := .examining rest
      report := RunProgress.push attempt .skipped none false run.report })

/-- Come to an attempt.  Every one but the first of the run is a fallback. -/
def enter (engine : Engine) (run : Run) : Engine :=
  if run.asks.isEmpty then engine else engine.count .fallbacks

/-- Ask the breaker of an attempt, and call its provider or skip it. -/
def examine (attempt : Attempt) (rest : List Attempt) (engine : Engine) (run : Run) :
    Engine × Run :=
  let (engine, admitted) := (run.enter engine).onBank (.allow attempt.provider)
  let run := run.note (.asked attempt admitted)
  if admitted then run.dial attempt false rest engine else run.skip attempt rest engine

/-- Call the best attempt if nothing was called, else come to the end. -/
def conclude (engine : Engine) (run : Run) : Engine × Run :=
  match run.examined with
  | best :: _ =>
    if run.report.tried = 0 ∧ !run.report.cancelled then
      run.dial best true [] (engine.count .lastResorts)
    else run.finish engine
  | [] => run.finish engine

/-- Take the next attempt; `stopped` says whether the run has been told to stop.  A run with a call
in flight, or at its end, stays as it is. -/
def advance (stopped : Bool) (engine : Engine) (run : Run) : Engine × Run :=
  match run.place with
  | .examining (attempt :: rest) =>
    if stopped then run.stop engine else run.examine attempt rest engine
  | .examining [] => run.conclude engine
  | _ => (engine, run)

/-- Record how the call in flight ended.  A run without one stays as it is. -/
def settle (ending : CallEnd) (engine : Engine) (run : Run) : Engine × Run :=
  match run.place with
  | .calling attempt lastResort started rest =>
    let latency := elapsedSince engine.clock.moment.instant started
    let record (succeeded : Bool) : Engine :=
      engine.recordOutcome attempt.provider succeeded latency lastResort
    let pushed (outcome : AttemptOutcome) : RunReport :=
      RunProgress.pushCall attempt outcome latency lastResort run.report
    let run := run.note (.ended ending)
    match ending with
    | .succeeded response =>
      let report := (pushed .succeeded).succeed attempt.provider response
      { run with report := report }.finish (record true)
    | .failed error =>
      (record false, { run with place := .examining rest, report := pushed (.failed error) })
    | .cancelled =>
      { run with report := { pushed .cancelled with cancelled := true } }.finish (record false)
    | .dropped => ((record false).count .cancellations, { run with place := .dropped attempt })
  | _ => (engine, run)

/-- How a run ended, if it did. -/
def ending? (run : Run) : Option RunEnd :=
  match run.place with
  | .finished => some (.finished run.report)
  | .dropped _ => some .dropped
  | _ => none

@[simp] theorem note_events (event : RunEvent) (run : Run) :
    (run.note event).events = run.events ++ [event] := rfl

theorem note_asks (event : RunEvent) (run : Run) :
    (run.note event).asks = run.asks ++ event.ask?.toList := by
  rw [asks, note_events, List.filterMap_append]
  cases event <;> rfl

theorem note_calls (event : RunEvent) (run : Run) :
    (run.note event).calls = run.calls ++ event.call?.toList := by
  rw [calls, note_events, List.filterMap_append]
  cases event <;> rfl

@[simp] theorem asked_asks (attempt : Attempt) (admitted : Bool) (run : Run) :
    (run.note (.asked attempt admitted)).asks = run.asks ++ [(attempt, admitted)] :=
  note_asks _ run

@[simp] theorem asked_calls (attempt : Attempt) (admitted : Bool) (run : Run) :
    (run.note (.asked attempt admitted)).calls = run.calls :=
  (note_calls _ run).trans (List.append_nil _)

@[simp] theorem ended_asks (ending : CallEnd) (run : Run) :
    (run.note (.ended ending)).asks = run.asks :=
  (note_asks _ run).trans (List.append_nil _)

@[simp] theorem ended_calls (ending : CallEnd) (run : Run) :
    (run.note (.ended ending)).calls = run.calls :=
  (note_calls _ run).trans (List.append_nil _)

@[simp] theorem skip_asks (attempt : Attempt) (rest : List Attempt) (engine : Engine) (run : Run) :
    (run.skip attempt rest engine).2.asks = run.asks := rfl

@[simp] theorem skip_calls (attempt : Attempt) (rest : List Attempt) (engine : Engine)
    (run : Run) : (run.skip attempt rest engine).2.calls = run.calls := rfl

@[simp] theorem dial_asks (attempt : Attempt) (lastResort : Bool) (rest : List Attempt)
    (engine : Engine) (run : Run) : (run.dial attempt lastResort rest engine).2.asks = run.asks :=
  (note_asks _ run).trans (List.append_nil _)

@[simp] theorem dial_calls (attempt : Attempt) (lastResort : Bool) (rest : List Attempt)
    (engine : Engine) (run : Run) :
    (run.dial attempt lastResort rest engine).2.calls = run.calls ++ [(attempt, lastResort)] :=
  note_calls _ run

@[simp] theorem stop_asks (engine : Engine) (run : Run) : (run.stop engine).2.asks = run.asks :=
  (note_asks .stopped run).trans (List.append_nil _)

@[simp] theorem stop_calls (engine : Engine) (run : Run) : (run.stop engine).2.calls = run.calls :=
  (note_calls .stopped run).trans (List.append_nil _)

variable {attempt : Attempt} {rest : List Attempt} {run : Run} {engine asked : Engine}

theorem advance_of_told (here : run.place = .examining (attempt :: rest)) :
    run.advance true engine = run.stop engine := by
  rw [advance, here]
  rfl

theorem advance_of_denied (here : run.place = .examining (attempt :: rest))
    (denied : (run.enter engine).onBank (.allow attempt.provider) = (asked, false)) :
    run.advance false engine = (run.note (.asked attempt false)).skip attempt rest asked := by
  rw [advance, here]
  change run.examine attempt rest engine = _
  unfold examine
  rw [denied]
  rfl

theorem advance_of_admitted (here : run.place = .examining (attempt :: rest))
    (admitted : (run.enter engine).onBank (.allow attempt.provider) = (asked, true)) :
    run.advance false engine = (run.note (.asked attempt true)).dial attempt false rest asked := by
  rw [advance, here]
  change run.examine attempt rest engine = _
  unfold examine
  rw [admitted]
  rfl

theorem advance_of_examined (here : run.place = .examining []) (stopped : Bool) :
    run.advance stopped engine = run.conclude engine := by
  rw [advance, here]

theorem conclude_of_settled (settled : ¬(run.report.tried = 0 ∧ !run.report.cancelled)) :
    run.conclude engine = run.finish engine := by
  unfold conclude
  split
  · exact if_neg settled
  · rfl

theorem conclude_of_nil (none : run.examined = []) : run.conclude engine = run.finish engine := by
  rw [conclude, none]

theorem conclude_of_untried {best : Attempt} {others : List Attempt}
    (candidates : run.examined = best :: others)
    (untried : run.report.tried = 0 ∧ !run.report.cancelled) :
    run.conclude engine = run.dial best true [] (engine.count .lastResorts) := by
  rw [conclude, candidates]
  exact if_pos untried

theorem advance_of_waiting (waiting : ∀ rest, run.place ≠ .examining rest) (stopped : Bool) :
    run.advance stopped engine = (engine, run) := by
  unfold advance
  split
  · rename_i here
    exact absurd here (waiting _)
  · rename_i here
    exact absurd here (waiting _)
  · rfl

theorem settle_of_idle (ending : CallEnd)
    (idle : ∀ attempt lastResort started rest,
      run.place ≠ .calling attempt lastResort started rest) :
    run.settle ending engine = (engine, run) := by
  unfold settle
  split
  · rename_i here
    exact absurd here (idle _ _ _ _)
  · rfl

/-- All that taking the next attempt can come to. -/
@[elab_as_elim]
theorem advance_cases {motive : Engine × Run → Prop} (stopped : Bool) (engine : Engine) (run : Run)
    (waiting : (∀ rest, run.place ≠ .examining rest) → motive (engine, run))
    (told : ∀ attempt rest, run.place = .examining (attempt :: rest) → motive (run.stop engine))
    (denied : ∀ attempt rest asked, run.place = .examining (attempt :: rest) →
      (run.enter engine).onBank (.allow attempt.provider) = (asked, false) →
      motive ((run.note (.asked attempt false)).skip attempt rest asked))
    (admitted : ∀ attempt rest asked, run.place = .examining (attempt :: rest) →
      (run.enter engine).onBank (.allow attempt.provider) = (asked, true) →
      motive ((run.note (.asked attempt true)).dial attempt false rest asked))
    (resorted : ∀ best others, run.place = .examining [] → run.examined = best :: others →
      run.report.tried = 0 → motive (run.dial best true [] (engine.count .lastResorts)))
    (ended : run.place = .examining [] →
      (run.report.tried = 0 → run.report.cancelled = false → run.examined = []) →
      motive (run.finish engine)) :
    motive (run.advance stopped engine) := by
  cases here : run.place with
  | examining rest =>
      cases rest with
      | nil =>
          rw [advance_of_examined here]
          by_cases untried : run.report.tried = 0 ∧ !run.report.cancelled
          · cases candidates : run.examined with
            | nil =>
                rw [conclude_of_nil candidates]
                exact ended here fun _ _ => candidates
            | cons best others =>
                rw [conclude_of_untried candidates untried]
                exact resorted best others here candidates untried.1
          · rw [conclude_of_settled untried]
            refine ended here fun none uncancelled => absurd ⟨none, ?_⟩ untried
            rw [uncancelled]
            rfl
      | cons attempt rest =>
          cases stopped with
          | true =>
              rw [advance_of_told here]
              exact told attempt rest here
          | false =>
              cases answer : (run.enter engine).onBank (.allow attempt.provider) with
              | mk asked granted =>
                  cases granted with
                  | false =>
                      rw [advance_of_denied here answer]
                      exact denied attempt rest asked here answer
                  | true =>
                      rw [advance_of_admitted here answer]
                      exact admitted attempt rest asked here answer
  | calling _ _ _ _ | finished | dropped _ =>
      have unmoved : ∀ rest, run.place ≠ .examining rest := by
        rw [here]
        exact nofun
      rw [advance_of_waiting unmoved]
      exact waiting unmoved

/-- All that the end of a call can come to. -/
@[elab_as_elim]
theorem settle_cases {motive : Engine × Run → Prop} (ending : CallEnd) (engine : Engine)
    (run : Run)
    (idle : motive (engine, run))
    (succeeded : ∀ attempt lastResort started rest response latency,
      run.place = .calling attempt lastResort started rest → ending = .succeeded response →
      motive ({ run.note (.ended ending) with
        report :=
          (RunProgress.pushCall attempt .succeeded latency lastResort run.report).succeed
            attempt.provider response }.finish
        (engine.recordOutcome attempt.provider true latency lastResort)))
    (failed : ∀ attempt lastResort started rest error latency,
      run.place = .calling attempt lastResort started rest → ending = .failed error →
      motive (engine.recordOutcome attempt.provider false latency lastResort,
        { run.note (.ended ending) with
          place := .examining rest
          report := RunProgress.pushCall attempt (.failed error) latency lastResort
            run.report }))
    (cancelled : ∀ attempt lastResort started rest latency,
      run.place = .calling attempt lastResort started rest → ending = .cancelled →
      motive ({ run.note (.ended ending) with
        report :=
          { RunProgress.pushCall attempt .cancelled latency lastResort run.report with
            cancelled := true } }.finish
        (engine.recordOutcome attempt.provider false latency lastResort)))
    (dropped : ∀ attempt lastResort started rest latency,
      run.place = .calling attempt lastResort started rest → ending = .dropped →
      motive ((engine.recordOutcome attempt.provider false latency lastResort).count
          .cancellations,
        { run.note (.ended ending) with place := .dropped attempt })) :
    motive (run.settle ending engine) := by
  cases here : run.place with
  | calling attempt lastResort started rest =>
      unfold settle
      rw [here]
      cases ending with
      | succeeded response => exact succeeded _ _ _ _ _ _ here rfl
      | failed error => exact failed _ _ _ _ _ _ here rfl
      | cancelled => exact cancelled _ _ _ _ _ here rfl
      | dropped => exact dropped _ _ _ _ _ here rfl
  | examining _ | finished | dropped _ =>
      rw [settle_of_idle ending (by rw [here]; exact nofun)]
      exact idle

theorem bank_enter (engine : Engine) (run : Run) : (run.enter engine).bank = engine.bank := by
  rw [enter]
  split <;> rfl

theorem journal_enter (engine : Engine) (run : Run) :
    (run.enter engine).journal = engine.journal := by
  rw [enter]
  split <;> rfl

@[simp] theorem settle_asks (ending : CallEnd) (engine : Engine) (run : Run) :
    (run.settle ending engine).2.asks = run.asks := by
  refine settle_cases ending engine run rfl ?_ ?_ ?_ ?_ <;> intros <;> exact ended_asks ending run

@[simp] theorem settle_calls (ending : CallEnd) (engine : Engine) (run : Run) :
    (run.settle ending engine).2.calls = run.calls := by
  refine settle_cases ending engine run rfl ?_ ?_ ?_ ?_ <;> intros <;> exact ended_calls ending run

end Run

namespace RunProgress

variable {σ : Type} {caller : Caller σ} {first : Bool} {attempt : Attempt} {rest : List Attempt}
  {engine asked : Engine} {state : σ} {report : RunReport}

theorem walk_of_told (told : caller.stopped state engine = true) :
    walk caller first (attempt :: rest) ⟨engine, state, report⟩ =
      (⟨engine, state, { report with cancelled := true }⟩, .over) := by
  rw [walk, if_pos told]

theorem walk_of_denied (untold : caller.stopped state engine = false)
    (denied : (if first then engine else engine.count .fallbacks).onBank
      (.allow attempt.provider) = (asked, false)) :
    walk caller first (attempt :: rest) ⟨engine, state, report⟩ =
      walk caller false rest ⟨asked, state, push attempt .skipped none false report⟩ := by
  rw [walk, if_neg (by simp [untold])]
  dsimp only
  rw [denied]
  rfl

theorem walk_of_admitted (untold : caller.stopped state engine = false)
    (admitted : (if first then engine else engine.count .fallbacks).onBank
      (.allow attempt.provider) = (asked, true)) :
    walk caller first (attempt :: rest) ⟨engine, state, report⟩ =
      match dispatch caller attempt false ⟨asked, state, report⟩ with
      | (progress, .next) => walk caller false rest progress
      | stopped => stopped := by
  rw [walk, if_neg (by simp [untold])]
  dsimp only
  rw [admitted]
  rfl

theorem bank_close (progress : RunProgress σ) : progress.close.bank = progress.engine.bank := by
  rw [close]
  split
  · rfl
  · split <;> rfl

theorem journal_close (progress : RunProgress σ) :
    progress.close.journal = progress.engine.journal := by
  rw [close]
  split
  · rfl
  · split <;> rfl

theorem dispatch_tried {lastResort : Bool} {progress made : RunProgress σ} {move : RunMove}
    (dispatched : dispatch caller attempt lastResort progress = (made, move))
    (ended : move ≠ .dropped) : made.report.tried ≠ 0 := by
  unfold dispatch at dispatched
  generalize caller.call attempt progress.state progress.engine = called at dispatched
  obtain ⟨state, after, ending⟩ := called
  cases ending with
  | succeeded response =>
      obtain ⟨rfl, rfl⟩ := Prod.mk.inj dispatched
      exact Nat.succ_ne_zero _
  | failed error =>
      obtain ⟨rfl, rfl⟩ := Prod.mk.inj dispatched
      exact Nat.succ_ne_zero _
  | cancelled =>
      obtain ⟨rfl, rfl⟩ := Prod.mk.inj dispatched
      exact Nat.succ_ne_zero _
  | dropped => exact absurd (Prod.mk.inj dispatched).2.symm ended

/-- A run whose attempts ended it needs no last resort. -/
theorem walk_over (rest : List Attempt) : ∀ {first : Bool} {progress made : RunProgress σ},
    walk caller first rest progress = (made, .over) →
      made.report.tried ≠ 0 ∨ made.report.cancelled = true := by
  induction rest with
  | nil => exact fun walked => absurd (Prod.mk.inj walked).2 nofun
  | cons attempt rest ih =>
      intro first ⟨engine, state, report⟩ made walked
      cases told : caller.stopped state engine with
      | true =>
          rw [walk_of_told told] at walked
          obtain ⟨rfl, -⟩ := Prod.mk.inj walked
          exact .inr rfl
      | false =>
          obtain ⟨⟨asked, admitted⟩, answer⟩ : ∃ answered,
              (if first then engine else engine.count .fallbacks).onBank
                (.allow attempt.provider) = answered := ⟨_, rfl⟩
          cases admitted with
          | false =>
              rw [walk_of_denied told answer] at walked
              exact ih walked
          | true =>
              rw [walk_of_admitted told answer] at walked
              cases dispatched : dispatch caller attempt false ⟨asked, state, report⟩ with
              | mk progress move =>
                  rw [dispatched] at walked
                  cases move with
                  | next => exact ih walked
                  | «over» =>
                      obtain ⟨rfl, -⟩ := Prod.mk.inj walked
                      exact .inl (dispatch_tried dispatched nofun)
                  | dropped => exact absurd (Prod.mk.inj walked).2 nofun

theorem lastResort_of_settled {examined : List Attempt} {progress : RunProgress σ}
    (settled : progress.report.tried ≠ 0 ∨ progress.report.cancelled = true) :
    lastResort caller examined progress = (progress, .over) := by
  unfold lastResort
  split
  · refine if_neg ?_
    rintro ⟨untried, uncancelled⟩
    rcases settled with tried | cancelled
    · exact tried untried
    · simp [cancelled] at uncancelled
  · rfl

end RunProgress

/-- A run by itself, with whoever makes its calls. -/
structure Situation (σ : Type) where
  /-- The engine. -/
  engine : Engine
  /-- The state of the caller. -/
  state : σ
  /-- The run. -/
  run : Run

namespace Situation

variable {σ : Type}

/-- The next situation. -/
def next (caller : Caller σ) (now : Situation σ) : Situation σ :=
  match now.run.place with
  | .calling attempt _ _ _ =>
    let called := caller.call attempt now.state now.engine
    let (engine, run) := now.run.settle called.ending called.engine
    ⟨engine, called.state, run⟩
  | _ =>
    let (engine, run) := now.run.advance (caller.stopped now.state now.engine) now.engine
    ⟨engine, now.state, run⟩

/-- One situation comes out of another, step after step. -/
def Leads (caller : Caller σ) : Situation σ → Situation σ → Prop :=
  Relation.ReflTransGen fun before after => after = before.next caller

/-- Where a situation stands after some attempts were made in one go. -/
structure Follows (rest : List Attempt) (before : Run) (made : RunProgress σ × RunMove)
    (after : Situation σ) : Prop where
  /-- The caller is in the same state. -/
  state : after.state = made.1.state
  /-- The run examines the same attempts. -/
  examined : after.run.examined = before.examined
  /-- The run reports the same. -/
  report : after.run.report = made.1.report
  /-- The run stands where the last attempt left it, with the same engine. -/
  place :
    match made.2 with
    | .next => after.engine = made.1.engine ∧ after.run.place = .examining rest
    | .over => after.engine = made.1.close ∧ after.run.place = .finished
    | .dropped => after.engine = made.1.engine ∧ after.run.ending? = some .dropped

variable {caller : Caller σ} {attempt : Attempt} {rest : List Attempt} {run : Run}
  {progress : RunProgress σ}

theorem leads_next (now : Situation σ) : Leads caller now (now.next caller) := .single rfl

theorem next_of_calling {lastResort : Bool} {started : Int} {now : Situation σ}
    (here : now.run.place = .calling attempt lastResort started rest) :
    now.next caller =
      let called := caller.call attempt now.state now.engine
      let settled := now.run.settle called.ending called.engine
      ⟨settled.1, called.state, settled.2⟩ := by
  rw [next, here]

theorem next_of_examining {now : Situation σ} (here : now.run.place = .examining rest) :
    now.next caller =
      let advanced := now.run.advance (caller.stopped now.state now.engine) now.engine
      ⟨advanced.1, now.state, advanced.2⟩ := by
  rw [next, here]

/-- A run that has come to its end stays as it is. -/
theorem next_of_ended {now : Situation σ} {ending : RunEnd}
    (ended : now.run.ending? = some ending) : now.next caller = now := by
  obtain ⟨engine, state, run⟩ := now
  cases here : run.place with
  | examining _ | calling _ _ _ _ => simp [Run.ending?, here] at ended
  | finished | dropped _ =>
      have waiting : ∀ rest, run.place ≠ .examining rest := by simp [here]
      simp only [next, here, Run.advance_of_waiting waiting]

/-- A run comes to one end only. -/
theorem Leads.eq_of_ended {first last other : Situation σ} {ending otherEnding : RunEnd}
    (leads : Leads caller first last) (ended : last.run.ending? = some ending)
    (leadsOther : Leads caller first other) (endedOther : other.run.ending? = some otherEnding) :
    last = other := by
  have stays {last later : Situation σ} {ending : RunEnd} (ended : last.run.ending? = some ending)
      (leads : Leads caller last later) : later = last := by
    induction leads with
    | refl => rfl
    | tail _ step ih => rw [step, ih, next_of_ended ended]
  have functional : Relator.RightUnique fun before after : Situation σ =>
      after = before.next caller := by
    rintro before _ _ rfl rfl
    rfl
  rcases Relation.ReflTransGen.total_of_right_unique functional leads leadsOther with on | back
  · exact (stays ended on).symm
  · exact stays endedOther back

theorem Follows.of_examined {before : Run} {made : RunProgress σ × RunMove} {after : Situation σ}
    (follows : Follows rest run made after) (same : run.examined = before.examined) :
    Follows rest before made after :=
  ⟨follows.state, follows.examined.trans same, follows.report, follows.place⟩

/-- Until its call has ended a run does what making the attempt in one go does. -/
theorem leads_dispatch {lastResort : Bool} (run : Run) (progress : RunProgress σ)
    (here : run.place =
      .calling attempt lastResort progress.engine.clock.moment.instant rest)
    (same : run.report = progress.report) :
    ∃ after, Leads caller ⟨progress.engine, progress.state, run⟩ after ∧
      Follows rest run (RunProgress.dispatch caller attempt lastResort progress) after ∧
      after.run.asks = run.asks := by
  refine ⟨_, leads_next _, ?_, ?_⟩
  · obtain ⟨engine, state, report⟩ := progress
    obtain rfl : run.report = report := same
    rw [next_of_calling here]
    unfold RunProgress.dispatch Run.settle
    rw [here]
    generalize caller.call attempt state engine = called
    obtain ⟨state, after, ending⟩ := called
    cases ending with
    | succeeded response => exact ⟨rfl, rfl, rfl, rfl, rfl⟩
    | failed error => exact ⟨rfl, rfl, rfl, rfl, rfl⟩
    | cancelled => exact ⟨rfl, rfl, rfl, rfl, rfl⟩
    | dropped => exact ⟨rfl, rfl, rfl, rfl, rfl⟩
  · rw [next_of_calling here]
    exact Run.settle_asks _ _ _

/-- Step after step a run examines its attempts as it does in one go. -/
theorem leads_walk (rest : List Attempt) :
    ∀ (run : Run) (progress : RunProgress σ), run.place = .examining rest →
      run.report = progress.report →
        ∃ last, Leads caller ⟨progress.engine, progress.state, run⟩ last ∧
          Follows [] run (RunProgress.walk caller run.asks.isEmpty rest progress) last := by
  induction rest with
  | nil =>
      intro run progress here same
      exact ⟨_, .refl, rfl, rfl, same, rfl, here⟩
  | cons attempt rest ih =>
      intro run progress here same
      obtain ⟨engine, state, report⟩ := progress
      obtain rfl : run.report = report := same
      have first : Leads caller ⟨engine, state, run⟩ _ := leads_next ⟨engine, state, run⟩
      rw [next_of_examining here] at first
      cases told : caller.stopped state engine with
      | true =>
          simp only [told, Run.advance_of_told here] at first
          rw [RunProgress.walk_of_told told]
          exact ⟨_, first, rfl, rfl, rfl, rfl, rfl⟩
      | false =>
          obtain ⟨⟨asked, admitted⟩, answer⟩ : ∃ answered,
              (run.enter engine).onBank (.allow attempt.provider) = answered := ⟨_, rfl⟩
          cases admitted with
          | false =>
              simp only [told, Run.advance_of_denied here answer] at first
              rw [RunProgress.walk_of_denied told answer]
              let skipped := ((run.note (.asked attempt false)).skip attempt rest asked).2
              have nonempty : skipped.asks.isEmpty = false := by simp [skipped]
              obtain ⟨last, steps, follows⟩ := ih skipped ⟨asked, state, skipped.report⟩ rfl rfl
              rw [nonempty] at follows
              exact ⟨last, first.trans steps, follows.of_examined rfl⟩
          | true =>
              simp only [told, Run.advance_of_admitted here answer] at first
              rw [RunProgress.walk_of_admitted told answer]
              let dialled := ((run.note (.asked attempt true)).dial attempt false rest asked).2
              have nonempty : dialled.asks.isEmpty = false := by simp [dialled]
              obtain ⟨after, called, follows, kept⟩ : ∃ after, Leads caller _ after ∧ _ ∧ _ :=
                leads_dispatch dialled ⟨asked, state, run.report⟩ rfl rfl
              obtain ⟨⟨progress, move⟩, made⟩ : ∃ made, RunProgress.dispatch caller attempt false
                ⟨asked, state, run.report⟩ = made := ⟨_, rfl⟩
              rw [made] at follows ⊢
              cases move with
              | «over» =>
                  exact ⟨after, first.trans called, follows.state, follows.examined,
                    follows.report, follows.place⟩
              | dropped =>
                  exact ⟨after, first.trans called, follows.state, follows.examined,
                    follows.report, follows.place⟩
              | next =>
                  obtain ⟨engine_eq, place_eq⟩ := follows.place
                  obtain ⟨last, steps, walked⟩ :=
                    ih after.run progress place_eq follows.report
                  rw [← follows.state, ← engine_eq] at steps
                  rw [kept, nonempty] at walked
                  exact ⟨last, (first.trans called).trans steps,
                    walked.of_examined follows.examined⟩

/-- A situation in which a run has come to a given end. -/
structure Gives (result : Engine × σ × RunEnd) (last : Situation σ) : Prop where
  /-- The engine is the one that the run leaves. -/
  engine : last.engine = result.1
  /-- The caller is in the state that the run leaves. -/
  state : last.state = result.2.1
  /-- The run has ended that way. -/
  ending : last.run.ending? = some result.2.2

theorem leads_conclude {now : Situation σ} (here : now.run.place = .examining []) :
    let concluded := now.run.conclude now.engine
    Leads caller now ⟨concluded.1, now.state, concluded.2⟩ := by
  have last : Leads caller now _ := leads_next now
  rwa [next_of_examining here, Run.advance_of_examined here] at last

/-- Step after step a run makes its call of last resort, if it makes one, and ends as it does in
one go. -/
theorem leads_lastResort (run : Run) (progress : RunProgress σ) (here : run.place = .examining [])
    (same : run.report = progress.report) :
    ∃ last, Leads caller ⟨progress.engine, progress.state, run⟩ last ∧
      Gives
        (match RunProgress.lastResort caller run.examined progress with
          | (progress, .dropped) => (progress.engine, progress.state, .dropped)
          | (progress, _) => (progress.close, progress.state, .finished progress.report)) last := by
  obtain ⟨engine, state, report⟩ := progress
  obtain rfl : run.report = report := same
  have concluded : Leads caller ⟨engine, state, run⟩ _ := leads_conclude here
  unfold RunProgress.lastResort
  cases candidates : run.examined with
  | nil =>
      rw [Run.conclude_of_nil candidates] at concluded
      exact ⟨_, concluded, rfl, rfl, rfl⟩
  | cons best others =>
      by_cases untried : run.report.tried = 0 ∧ !run.report.cancelled
      · rw [Run.conclude_of_untried candidates untried] at concluded
        simp only
        rw [if_pos untried]
        let resorted := (run.dial best true [] (engine.count .lastResorts)).2
        obtain ⟨after, called, follows, -⟩ : ∃ after, Leads caller _ after ∧ _ ∧ _ :=
          leads_dispatch resorted ⟨engine.count .lastResorts, state, run.report⟩ rfl rfl
        obtain ⟨⟨progress, move⟩, made⟩ : ∃ made, RunProgress.dispatch caller best true
          ⟨engine.count .lastResorts, state, run.report⟩ = made := ⟨_, rfl⟩
        rw [made] at follows ⊢
        obtain ⟨state_eq, -, report_eq, place_eq⟩ := follows
        cases move with
        | dropped => exact ⟨after, concluded.trans called, place_eq.1, state_eq, place_eq.2⟩
        | «over» =>
            refine ⟨after, concluded.trans called, place_eq.1, state_eq, ?_⟩
            rw [Run.ending?, place_eq.2, report_eq]
        | next =>
            have finished : Leads caller after _ := leads_conclude place_eq.2
            have settled : ¬(after.run.report.tried = 0 ∧ !after.run.report.cancelled) := by
              rw [report_eq]
              exact fun untried => RunProgress.dispatch_tried made nofun untried.1
            rw [Run.conclude_of_settled settled, place_eq.1] at finished
            refine ⟨_, (concluded.trans called).trans finished, ?_, state_eq, ?_⟩
            · simp only [Run.finish, report_eq]
              rfl
            · simp only [Run.finish, Run.ending?, report_eq]
      · rw [Run.conclude_of_settled untried] at concluded
        simp only
        rw [if_neg untried]
        exact ⟨_, concluded, rfl, rfl, rfl⟩

/-- Step after step a run of a plan comes to the end that it comes to in one go. -/
theorem leads_runPlan (model : String) (plan : List Attempt) (limit : Nat) (state : σ)
    (engine : Engine) :
    let begun := Run.begin model plan limit engine
    ∃ last, Leads caller ⟨begun.1, state, begun.2⟩ last ∧
      Gives (RunProgress.runPlan caller model plan limit state engine) last := by
  intro begun
  let start : RunProgress σ := ⟨begun.1, state, .empty model⟩
  obtain ⟨middle, walked, follows⟩ : ∃ middle, Leads caller _ middle ∧ _ :=
    leads_walk _ begun.2 start rfl rfl
  change Follows [] begun.2 (RunProgress.walk caller true begun.2.examined start) middle at follows
  change ∃ last, _ ∧ Gives (match RunProgress.walk caller true begun.2.examined start with
    | (progress, .dropped) => (progress.engine, progress.state, .dropped)
    | (progress, _) => _) last
  cases made : RunProgress.walk caller true begun.2.examined start with
  | mk progress move =>
      rw [made] at follows
      obtain ⟨state_eq, examined_eq, report_eq, place_eq⟩ := follows
      cases move with
      | dropped => exact ⟨middle, walked, place_eq.1, state_eq, place_eq.2⟩
      | «over» =>
          refine ⟨middle, walked, ?_⟩
          dsimp only
          rw [RunProgress.lastResort_of_settled (RunProgress.walk_over _ made)]
          refine ⟨place_eq.1, state_eq, ?_⟩
          rw [Run.ending?, place_eq.2, report_eq]
      | next =>
          obtain ⟨last, steps, gives⟩ : ∃ last, Leads caller _ last ∧ _ :=
            leads_lastResort middle.run progress place_eq.2 report_eq
          rw [← state_eq, ← place_eq.1] at steps
          rw [examined_eq] at gives
          exact ⟨last, walked.trans steps, gives⟩

/-- A failover run whose request can be planned is a run of that plan, step after step. -/
theorem leads_failover (caller : Caller σ) {request : PlanRequest} {plan : List Attempt}
    {engine planned : Engine} (made : engine.plan request = (planned, .ok plan)) (limit : Nat)
    (state : σ) :
    let begun := Run.begin request.model plan limit planned
    ∃ last ending, Leads caller ⟨begun.1, state, begun.2⟩ last ∧
      last.run.ending? = some ending ∧
      engine.failover caller request limit state = (last.engine, last.state, .ok ending) := by
  intro begun
  obtain ⟨last, steps, gives⟩ : ∃ last, Leads caller _ last ∧ _ :=
    leads_runPlan request.model plan limit state planned
  refine ⟨last, _, steps, gives.ending, ?_⟩
  rw [gives.engine, gives.state, Engine.failover, made]

end Situation

end ProviderRouting
