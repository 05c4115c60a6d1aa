import ProviderRouting.Proofs.Engine.Books
import ProviderRouting.Proofs.Engine.RunShape

/-!
# Abandoned calls

A call that does not end can be abandoned in two ways: the run is told to stop, or it is dropped.
Both leave the same engine.  It is the engine that the failure of the call would have left, had it
been the last call of the run, with one more cancellation.
-/

namespace ProviderRouting

/-- The same caller, whose calls end in a given way where they do not end by themselves. -/
def Caller.resolving {σ : Type} (ending : CallEnd) (caller : Caller σ) : Caller σ where
  stopped := caller.stopped
  call attempt state engine :=
    let called := caller.call attempt state engine
    if called.ending = .dropped then { called with ending := ending } else called

/-- A later report continues an earlier one by a number of planned attempts, none of which ended the
run. -/
structure RunReport.Continues (planned : Nat) (earlier later : RunReport) : Prop where
  records : later.records.countP (!·.lastResort) =
    earlier.records.countP (!·.lastResort) + planned
  cancelled : later.cancelled = earlier.cancelled
  reply : later.reply = earlier.reply

theorem RunReport.Continues.refl (report : RunReport) : report.Continues 0 report := ⟨rfl, rfl, rfl⟩

theorem RunReport.Continues.trans {first second : Nat} {earlier between later : RunReport}
    (front : earlier.Continues first between) (back : between.Continues second later) :
    earlier.Continues (first + second) later where
  records := by rw [back.records, front.records, Nat.add_assoc]
  cancelled := back.cancelled.trans front.cancelled
  reply := back.reply.trans front.reply

theorem RunReport.continues_push (attempt : Attempt) (outcome : AttemptOutcome)
    (latency : Option Duration) (lastResort : Bool) (report : RunReport) :
    report.Continues (!lastResort).toNat
      (RunProgress.push attempt outcome latency lastResort report) where
  records := by cases lastResort <;> simp [RunProgress.push]
  cancelled := rfl
  reply := rfl

theorem RunReport.continues_pushCall (attempt : Attempt) (outcome : AttemptOutcome)
    (latency : Duration) (lastResort : Bool) (report : RunReport) :
    report.Continues (!lastResort).toNat
      (RunProgress.pushCall attempt outcome latency lastResort report) := by
  obtain ⟨records, cancelled, reply⟩ :=
    report.continues_push attempt outcome (some latency) lastResort
  exact ⟨records, cancelled, reply⟩

/-- A call that a run makes. -/
structure Dial (σ : Type) where
  attempt : Attempt
  lastResort : Bool
  /-- How far the run had come. -/
  before : RunProgress σ

namespace Dial

variable {σ : Type} {caller : Caller σ} {ending : CallEnd} {dial : Dial σ}

/-- What the call leaves. -/
def called (caller : Caller σ) (dial : Dial σ) : CallReport σ :=
  caller.call dial.attempt dial.before.state dial.before.engine

/-- How long the call took. -/
def latency (caller : Caller σ) (dial : Dial σ) : Duration :=
  elapsedSince (dial.called caller).engine.clock.moment.instant
    dial.before.engine.clock.moment.instant

/-- The engine after the call, if the call counts as a failure. -/
def failure (caller : Caller σ) (dial : Dial σ) : Engine :=
  (dial.called caller).engine.recordOutcome dial.attempt.provider false (dial.latency caller)
    dial.lastResort

/-- The report with the outcome of the call. -/
def reported (caller : Caller σ) (outcome : AttemptOutcome) (dial : Dial σ) : RunReport :=
  RunProgress.pushCall dial.attempt outcome (dial.latency caller) dial.lastResort
    dial.before.report

/-- Make the call and record its outcome. -/
def dispatch (caller : Caller σ) (dial : Dial σ) : RunProgress σ × RunMove :=
  RunProgress.dispatch caller dial.attempt dial.lastResort dial.before

theorem called_resolving (hung : (dial.called caller).ending = .dropped) :
    dial.called (caller.resolving ending) = { dial.called caller with ending := ending } :=
  if_pos hung

theorem called_resolving_of_ne (ended : (dial.called caller).ending ≠ .dropped) :
    dial.called (caller.resolving ending) = dial.called caller :=
  if_neg ended

theorem failure_resolving (hung : (dial.called caller).ending = .dropped) :
    dial.failure (caller.resolving ending) = dial.failure caller := by
  rw [failure, failure, latency, latency, called_resolving hung]

theorem reported_resolving (hung : (dial.called caller).ending = .dropped)
    (outcome : AttemptOutcome) :
    dial.reported (caller.resolving ending) outcome = dial.reported caller outcome := by
  rw [reported, reported, latency, latency, called_resolving hung]

/-- How many planned attempts are examined by then, with the one that is called. -/
def examined (dial : Dial σ) : Nat :=
  dial.before.report.records.countP (!·.lastResort) + (!dial.lastResort).toNat

theorem examined_eq_countP (outcome : AttemptOutcome) :
    dial.examined = (dial.reported caller outcome).records.countP (!·.lastResort) := by
  rw [reported, RunProgress.pushCall, RunProgress.push, List.countP_append, List.countP_singleton,
    examined]
  cases dial.lastResort <;> rfl

theorem dispatch_eq (caller : Caller σ) (dial : Dial σ) : dial.dispatch caller =
    match (dial.called caller).ending with
    | .succeeded response =>
      (⟨(dial.called caller).engine.recordOutcome dial.attempt.provider true
            (dial.latency caller) dial.lastResort,
          (dial.called caller).state,
          (dial.reported caller .succeeded).succeed dial.attempt.provider response⟩,
        .over)
    | .failed error =>
      (⟨dial.failure caller, (dial.called caller).state, dial.reported caller (.failed error)⟩,
        .next)
    | .cancelled =>
      (⟨dial.failure caller, (dial.called caller).state,
          { dial.reported caller .cancelled with cancelled := true }⟩,
        .over)
    | .dropped =>
      (⟨(dial.failure caller).count .cancellations, (dial.called caller).state,
          dial.before.report⟩,
        .dropped) := rfl

theorem dispatch_dropped (hung : (dial.called caller).ending = .dropped) :
    dial.dispatch caller = (⟨(dial.failure caller).count .cancellations,
      (dial.called caller).state, dial.before.report⟩, .dropped) := by
  rw [dispatch_eq, hung]

/-- The call is cancelled. -/
theorem dispatch_cancelled (hung : (dial.called caller).ending = .dropped) :
    dial.dispatch (caller.resolving .cancelled) = (⟨dial.failure caller,
      (dial.called caller).state,
      { dial.reported caller .cancelled with cancelled := true }⟩, .over) := by
  simp only [dispatch_eq, failure_resolving hung, reported_resolving hung, called_resolving hung]

/-- The call fails. -/
theorem dispatch_failed (hung : (dial.called caller).ending = .dropped) (error : String) :
    dial.dispatch (caller.resolving (.failed error)) = (⟨dial.failure caller,
      (dial.called caller).state, dial.reported caller (.failed error)⟩, .next) := by
  simp only [dispatch_eq, failure_resolving hung, reported_resolving hung, called_resolving hung]

theorem dispatch_resolving_of_ne (ended : (dial.called caller).ending ≠ .dropped) :
    dial.dispatch (caller.resolving ending) = dial.dispatch caller := by
  have called : dial.called (caller.resolving ending) = dial.called caller :=
    called_resolving_of_ne ended
  simp only [dispatch_eq, failure, reported, latency, called]

theorem hung_of_dispatch {made : RunProgress σ}
    (dropped : dial.dispatch caller = (made, .dropped)) :
    (dial.called caller).ending = .dropped := by
  rw [dispatch_eq] at dropped
  split at dropped
  · cases dropped
  · cases dropped
  · cases dropped
  · assumption

theorem ended_of_dispatch {made : RunProgress σ} {move : RunMove}
    (dispatched : dial.dispatch caller = (made, move)) (went : move ≠ .dropped) :
    (dial.called caller).ending ≠ .dropped := by
  intro hung
  rw [dispatch_dropped hung] at dispatched
  exact went (Prod.mk.inj dispatched).2.symm

theorem continues_of_dispatch {made : RunProgress σ}
    (failed : dial.dispatch caller = (made, .next)) :
    dial.before.report.Continues (!dial.lastResort).toNat made.report := by
  rw [dispatch_eq] at failed
  split at failed
  · cases failed
  · obtain ⟨rfl, -⟩ := Prod.mk.inj failed
    exact RunReport.continues_pushCall _ _ _ _ _
  · cases failed
  · cases failed

end Dial

namespace RunProgress

variable {σ : Type} {caller : Caller σ} {ending : CallEnd} {first : Bool} {attempt : Attempt}
  {rest : List Attempt} {progress made : RunProgress σ} {move : RunMove}

/-- What a run meets when it comes to a planned attempt. -/
inductive Arrival (σ : Type) where
  /-- It has been told to stop. -/
  | told
  /-- The breaker rejects the call. -/
  | denied (progress : RunProgress σ)
  /-- The provider is called. -/
  | dialled (dial : Dial σ)

/-- Ask the breaker of a planned attempt.  Every attempt but the first of the run is a fallback. -/
def ask (first : Bool) (attempt : Attempt) (engine : Engine) : Engine × Bool :=
  (if first then engine else engine.count .fallbacks).onBank (.allow attempt.provider)

/-- Come to a planned attempt. -/
def arrive (stopped : σ → Engine → Bool) (first : Bool) (attempt : Attempt)
    (progress : RunProgress σ) : Arrival σ :=
  let asked := ask first attempt progress.engine
  if stopped progress.state progress.engine then .told
  else if asked.2 then .dialled ⟨attempt, false, { progress with engine := asked.1 }⟩
  else .denied (skip attempt { progress with engine := asked.1 })

theorem walk_cons (caller : Caller σ) (first : Bool) (attempt : Attempt) (rest : List Attempt)
    (progress : RunProgress σ) :
    walk caller first (attempt :: rest) progress =
      match arrive caller.stopped first attempt progress with
      | .told => ({ progress with report := { progress.report with cancelled := true } }, .over)
      | .denied progress => walk caller false rest progress
      | .dialled dial =>
        match dial.dispatch caller with
        | (progress, .next) => walk caller false rest progress
        | stopped => stopped := by
  obtain ⟨engine, state, report⟩ := progress
  unfold arrive
  cases told : caller.stopped state engine with
  | true => exact walk_of_told told
  | false =>
      obtain ⟨⟨asked, admitted⟩, answer⟩ : ∃ answered, ask first attempt engine = answered :=
        ⟨_, rfl⟩
      simp only [answer]
      cases admitted with
      | false => exact walk_of_denied told answer
      | true => exact walk_of_admitted told answer

theorem arrive_denied {denied : RunProgress σ} {stopped : σ → Engine → Bool}
    (arrival : arrive stopped first attempt progress = .denied denied) :
    progress.report.Continues 1 denied.report := by
  dsimp only [arrive] at arrival
  split at arrival
  · cases arrival
  · split at arrival
    · cases arrival
    · obtain rfl := Arrival.denied.inj arrival
      exact progress.report.continues_push attempt .skipped none false

theorem arrive_dialled {dial : Dial σ} {stopped : σ → Engine → Bool}
    (arrival : arrive stopped first attempt progress = .dialled dial) :
    dial.attempt = attempt ∧ dial.lastResort = false ∧ dial.before.report = progress.report := by
  dsimp only [arrive] at arrival
  split at arrival
  · cases arrival
  · split at arrival
    · obtain rfl := Arrival.dialled.inj arrival
      exact ⟨rfl, rfl, rfl⟩
    · cases arrival

/-- A run none of whose calls hangs goes the same way with the resolving caller. -/
theorem walk_resolving (walked : walk caller first rest progress = (made, move))
    (went : move ≠ .dropped) :
    walk (caller.resolving ending) first rest progress = (made, move) := by
  induction rest generalizing first progress with
  | nil => exact walked
  | cons attempt rest ih =>
      rw [walk_cons] at walked ⊢
      change (match arrive caller.stopped first attempt progress with
        | .told => _ | .denied progress => _ | .dialled dial => _) = _
      cases arrival : arrive caller.stopped first attempt progress with
      | told => rwa [arrival] at walked
      | denied denied =>
          rw [arrival] at walked
          exact ih walked
      | dialled dial =>
          rw [arrival] at walked
          dsimp only at walked ⊢
          obtain ⟨⟨reached, onward⟩, dispatched⟩ : ∃ result, dial.dispatch caller = result :=
            ⟨_, rfl⟩
          rw [dispatched] at walked
          have unhung : onward ≠ .dropped := by
            rintro rfl
            exact went (Prod.mk.inj walked).2.symm
          rw [Dial.dispatch_resolving_of_ne (Dial.ended_of_dispatch dispatched unhung), dispatched]
          cases onward with
          | next => exact ih walked
          | «over» => exact walked
          | dropped => exact absurd rfl unhung

theorem continues_walk (walked : walk caller first rest progress = (made, .next)) :
    progress.report.Continues rest.length made.report := by
  induction rest generalizing first progress with
  | nil =>
      obtain ⟨rfl, -⟩ := Prod.mk.inj walked
      exact .refl _
  | cons attempt rest ih =>
      rw [walk_cons] at walked
      rw [List.length_cons, Nat.add_comm]
      cases arrival : arrive caller.stopped first attempt progress with
      | told =>
          rw [arrival] at walked
          cases walked
      | denied denied =>
          rw [arrival] at walked
          exact (arrive_denied arrival).trans (ih walked)
      | dialled dial =>
          obtain ⟨-, planned, same⟩ := arrive_dialled arrival
          rw [arrival] at walked
          dsimp only at walked
          split at walked
          · rename_i failed
            have continues := Dial.continues_of_dispatch failed
            rw [planned, same] at continues
            exact continues.trans (ih walked)
          · rename_i unfailed
            rw [walked] at unfailed
            exact absurd rfl (unfailed _)

/-- The call at which the attempts of a run hang, after those in `front`. -/
structure HangsAt (caller : Caller σ) (first : Bool) (progress : RunProgress σ)
    (front : List Attempt) (dial : Dial σ) : Prop where
  planned : dial.lastResort = false
  hung : (dial.called caller).ending = .dropped
  continues : progress.report.Continues front.length dial.before.report
  /-- However the call ends and whichever attempts come after it, the run comes to it. -/
  comes : ∀ ending rest,
    walk (caller.resolving ending) first (front ++ dial.attempt :: rest) progress =
      match dial.dispatch (caller.resolving ending) with
      | (progress, .next) => walk (caller.resolving ending) false rest progress
      | stopped => stopped

theorem exists_hangsAt (walked : walk caller first rest progress = (made, .dropped)) :
    ∃ front dial others, rest = front ++ dial.attempt :: others ∧
      HangsAt caller first progress front dial ∧ dial.dispatch caller = (made, .dropped) := by
  induction rest generalizing first progress with
  | nil => exact absurd walked nofun
  | cons attempt rest ih =>
      rw [walk_cons] at walked
      -- the resolving caller is told to stop when the other one is
      have same (ending : CallEnd) (others : List Attempt) :=
        walk_cons (caller.resolving ending) first attempt others progress
      simp only [show ∀ ending, (caller.resolving ending).stopped = caller.stopped from
        fun _ => rfl] at same
      cases arrival : arrive caller.stopped first attempt progress with
      | told =>
          rw [arrival] at walked
          cases walked
      | denied denied =>
          simp only [arrival] at walked same
          obtain ⟨front, dial, others, rfl, hangs, dispatched⟩ := ih walked
          refine ⟨attempt :: front, dial, others, rfl, ⟨hangs.planned, hangs.hung, ?_, ?_⟩,
            dispatched⟩
          · rw [List.length_cons, Nat.add_comm]
            exact (arrive_denied arrival).trans hangs.continues
          · exact fun ending others => (same ending _).trans (hangs.comes ending others)
      | dialled dial =>
          obtain ⟨rfl, planned, unchanged⟩ := arrive_dialled arrival
          simp only [arrival] at walked same
          obtain ⟨⟨reached, onward⟩, dispatched⟩ : ∃ result, dial.dispatch caller = result :=
            ⟨_, rfl⟩
          rw [dispatched] at walked
          cases onward with
          | «over» => exact absurd (Prod.mk.inj walked).2 nofun
          | dropped =>
              obtain ⟨rfl, -⟩ := Prod.mk.inj walked
              refine ⟨[], dial, rest, rfl, ⟨planned, Dial.hung_of_dispatch dispatched, ?_, same⟩,
                dispatched⟩
              rw [unchanged]
              exact .refl _
          | next =>
              obtain ⟨front, hanging, others, rfl, hangs, dropped⟩ := ih walked
              have ended := Dial.ended_of_dispatch dispatched nofun
              refine ⟨dial.attempt :: front, hanging, others, rfl,
                ⟨hangs.planned, hangs.hung, ?_, fun ending others => ?_⟩, dropped⟩
              · have continues := Dial.continues_of_dispatch dispatched
                rw [planned, unchanged] at continues
                rw [List.length_cons, Nat.add_comm]
                exact continues.trans hangs.continues
              · refine (same ending _).trans ?_
                rw [Dial.dispatch_resolving_of_ne ended, dispatched]
                exact hangs.comes ending others

/-! ## Whole runs -/

variable {model : String} {plan : List Attempt} {limit : Nat} {state last : σ}
  {engine dropped : Engine}

/-- The beginning of a run. -/
def start (model : String) (state : σ) (engine : Engine) : RunProgress σ :=
  ⟨engine.count .runs, state, .empty model⟩

theorem runPlan_eq (caller : Caller σ) (model : String) (plan : List Attempt) (limit : Nat)
    (state : σ) (engine : Engine) :
    runPlan caller model plan limit state engine =
      match walk caller true (plan.take (max limit 1)) (start model state engine) with
      | (progress, .dropped) => (progress.engine, progress.state, .dropped)
      | (progress, _) =>
        match lastResort caller (plan.take (max limit 1)) progress with
        | (progress, .dropped) => (progress.engine, progress.state, .dropped)
        | (progress, _) => (progress.close, progress.state, .finished progress.report) := rfl

theorem runPlan_of_walk
    (walked : walk caller true (plan.take (max limit 1)) (start model state engine) = (made, move))
    (went : move ≠ .dropped)
    (settled : made.report.tried ≠ 0 ∨ made.report.cancelled = true) :
    runPlan caller model plan limit state engine =
      (made.close, made.state, .finished made.report) := by
  rw [runPlan_eq, walked]
  cases move with
  | dropped => exact absurd rfl went
  | next | «over» =>
      dsimp only
      rw [lastResort_of_settled settled]

/-- The call of last resort after a walk that called nobody. -/
def resort (best : Attempt) (progress : RunProgress σ) : Dial σ :=
  ⟨best, true, { progress with engine := progress.engine.count .lastResorts }⟩

theorem runPlan_of_resort {best : Attempt} {others : List Attempt}
    (examined : plan.take (max limit 1) = best :: others)
    (walked : walk caller true (best :: others) (start model state engine) = (progress, .next))
    (untried : progress.report.tried = 0 ∧ !progress.report.cancelled) :
    runPlan caller model plan limit state engine =
      match (resort best progress).dispatch caller with
      | (progress, .dropped) => (progress.engine, progress.state, .dropped)
      | (progress, _) => (progress.close, progress.state, .finished progress.report) := by
  rw [runPlan_eq, examined, walked]
  dsimp only
  rw [lastResort, if_pos untried]
  rfl

theorem take_eq_of_min {few many count : Nat} (same : min plan.length few = count)
    (within : count ≤ (plan.take many).length) : plan.take few = (plan.take many).take count := by
  rw [List.length_take] at within
  rw [List.take_take, List.take_eq_take_iff]
  omega

/-- What is left of a run that is dropped with a call in flight, against what would be left of it if
the call were cancelled, or if it failed as the last of the run. -/
structure Abandons (caller : Caller σ) (model : String) (plan : List Attempt) (limit : Nat)
    (state : σ) (engine : Engine) (dial : Dial σ) : Prop where
  hung : (dial.called caller).ending = .dropped
  examined : 0 < dial.examined ∧ dial.examined ≤ min plan.length (max limit 1)
  dropped : runPlan caller model plan limit state engine =
    ((dial.failure caller).count .cancellations, (dial.called caller).state, .dropped)
  cancelled : runPlan (caller.resolving .cancelled) model plan limit state engine =
    ((dial.failure caller).count .cancellations, (dial.called caller).state,
      .finished { dial.reported caller .cancelled with cancelled := true })
  failed : ∀ error fewer, min plan.length (max fewer 1) = dial.examined →
    runPlan (caller.resolving (.failed error)) model plan fewer state engine =
      (dial.failure caller, (dial.called caller).state,
        .finished (dial.reported caller (.failed error)))

theorem close_cancelled (caller : Caller σ) (dial : Dial σ) :
    close ⟨dial.failure caller, (dial.called caller).state,
        { dial.reported caller .cancelled with cancelled := true }⟩ =
      (dial.failure caller).count .cancellations :=
  rfl

theorem close_failed {dial : Dial σ} (error : String)
    (uncancelled : dial.before.report.cancelled = false)
    (unanswered : dial.before.report.success = false) :
    close ⟨dial.failure caller, (dial.called caller).state, dial.reported caller (.failed error)⟩ =
      dial.failure caller := by
  simp [close, Dial.reported, pushCall, push, uncancelled, unanswered]

/-- A planned call hangs. -/
theorem abandons_of_walk
    (walked : walk caller true (plan.take (max limit 1)) (start model state engine) =
      (made, .dropped)) :
    ∃ dial, Abandons caller model plan limit state engine dial := by
  obtain ⟨front, dial, others, split, hangs, dispatched⟩ := exists_hangsAt walked
  have counted : dial.examined = front.length + 1 := by
    rw [Dial.examined, hangs.planned, hangs.continues.records]
    exact congrArg (· + 1) (Nat.zero_add _)
  have within : dial.examined ≤ (plan.take (max limit 1)).length := by
    rw [counted, split]
    simp
  refine ⟨dial, hangs.hung, ⟨by omega, ?_⟩, ?_, ?_, fun error fewer same => ?_⟩
  · rwa [List.length_take, Nat.min_comm] at within
  · rw [runPlan_eq, walked, ← dispatched, Dial.dispatch_dropped hangs.hung]
  · have comes := hangs.comes .cancelled others
    rw [← split, Dial.dispatch_cancelled hangs.hung] at comes
    rw [runPlan_of_walk comes nofun (.inr rfl), close_cancelled]
  · have comes := hangs.comes (.failed error) []
    rw [Dial.dispatch_failed hangs.hung] at comes
    have last : plan.take (max fewer 1) = front ++ [dial.attempt] := by
      rw [take_eq_of_min same within, split, counted, List.append_cons]
      exact List.take_left' (by simp)
    rw [← last] at comes
    rw [runPlan_of_walk comes nofun (.inl (Nat.succ_ne_zero _)),
      close_failed error hangs.continues.cancelled (congrArg Prod.fst hangs.continues.reply)]

/-- The call of last resort hangs. -/
theorem abandons_of_resort {best : Attempt} {others : List Attempt}
    (examined : plan.take (max limit 1) = best :: others)
    (walked : walk caller true (best :: others) (start model state engine) = (progress, .next))
    (untried : progress.report.tried = 0 ∧ !progress.report.cancelled)
    (hung : ((resort best progress).called caller).ending = .dropped) :
    Abandons caller model plan limit state engine (resort best progress) := by
  have continues := continues_walk walked
  have counted : (resort best progress).examined = (plan.take (max limit 1)).length := by
    rw [examined]
    exact continues.records.trans (Nat.zero_add _)
  refine ⟨hung, ⟨?_, ?_⟩, ?_, ?_, fun error fewer same => ?_⟩
  · rw [counted, examined]
    exact Nat.succ_pos _
  · rw [counted, List.length_take]
    exact Nat.le_of_eq (Nat.min_comm _ _)
  · rw [runPlan_of_resort examined walked untried, Dial.dispatch_dropped hung]
  · rw [runPlan_of_resort examined (walk_resolving walked nofun) untried,
      Dial.dispatch_cancelled hung]
    exact congrArg (·, _, _) (close_cancelled caller (resort best progress))
  · have again : plan.take (max fewer 1) = best :: others := by
      rw [take_eq_of_min same (Nat.le_of_eq counted), counted, List.take_length, examined]
    rw [runPlan_of_resort again (walk_resolving walked nofun) untried, Dial.dispatch_failed hung]
    exact congrArg (·, _, _) (close_failed error continues.cancelled (congrArg Prod.fst continues.reply))

theorem exists_abandons
    (hung : runPlan caller model plan limit state engine = (dropped, last, .dropped)) :
    ∃ dial, Abandons caller model plan limit state engine dial := by
  obtain ⟨⟨progress, move⟩, walked⟩ : ∃ result,
      walk caller true (plan.take (max limit 1)) (start model state engine) = result := ⟨_, rfl⟩
  cases move with
  | dropped => exact abandons_of_walk walked
  | «over» =>
      rw [runPlan_of_walk walked nofun (walk_over _ walked)] at hung
      cases hung
  | next =>
      by_cases settled : progress.report.tried ≠ 0 ∨ progress.report.cancelled = true
      · rw [runPlan_of_walk walked nofun settled] at hung
        cases hung
      · have untried : progress.report.tried = 0 ∧ !progress.report.cancelled := by
          simpa using settled
        cases examined : plan.take (max limit 1) with
        | nil =>
            rw [runPlan_eq, walked, examined] at hung
            cases hung
        | cons best others =>
            rw [examined] at walked
            refine ⟨_, abandons_of_resort examined walked untried ?_⟩
            rw [runPlan_of_resort examined walked untried] at hung
            split at hung
            · rename_i dispatched
              exact Dial.hung_of_dispatch dispatched
            · cases hung

end RunProgress

namespace Engine

variable {σ : Type} {caller : Caller σ} {request : PlanRequest} {plan : List Attempt}
  {engine drawn : Engine}

theorem failover_of_plan (planned : engine.plan request = (drawn, .ok plan)) (caller : Caller σ)
    (limit : Nat) (state : σ) :
    engine.failover caller request limit state =
      let ran := RunProgress.runPlan caller request.model plan limit state drawn
      (ran.1, ran.2.1, .ok ran.2.2) := by
  rw [failover, planned]

theorem plan_of_failover {limit : Nat} {state last : σ} {after : Engine} {ending : RunEnd}
    (ran : engine.failover caller request limit state = (after, last, .ok ending)) :
    ∃ drawn plan, engine.plan request = (drawn, .ok plan) := by
  rw [failover] at ran
  split at ran
  · cases ran
  · rename_i drawn plan planned
    exact ⟨drawn, plan, planned⟩

/-- A run that is dropped during a call that does not end leaves the engine that it leaves when the
call is cancelled: that after a failure of the call, with one more cancellation.  If the call fails
and no attempt follows it, the run leaves the engine without that cancellation. -/
theorem abandonment_law {σ : Type} (caller : Caller σ) {request : PlanRequest} {limit : Nat}
    {state last : σ} {engine dropped : Engine}
    (hung : engine.failover caller request limit state = (dropped, last, .ok .dropped)) :
    ∃ drawn plan, ∃ dial : Dial σ, engine.plan request = (drawn, .ok plan) ∧
      (dial.called caller).ending = .dropped ∧ (dial.called caller).state = last ∧
      dropped = (dial.failure caller).count .cancellations ∧
      dropped.metrics.totals.get .cancellations =
        (dial.called caller).engine.metrics.totals.get .cancellations + 1 ∧
      engine.failover (caller.resolving .cancelled) request limit state =
        (dropped, last,
          .ok (.finished { dial.reported caller .cancelled with cancelled := true })) ∧
      0 < dial.examined ∧ dial.examined ≤ min plan.length (max limit 1) ∧
      ∀ error fewer, min plan.length (max fewer 1) = dial.examined →
        engine.failover (caller.resolving (.failed error)) request fewer state =
          (dial.failure caller, last, .ok (.finished (dial.reported caller (.failed error)))) := by
  obtain ⟨drawn, plan, planned⟩ := plan_of_failover hung
  simp only [failover_of_plan planned, Prod.mk.injEq, Except.ok.injEq] at hung
  obtain ⟨rfl, rfl, ending⟩ := hung
  obtain ⟨dial, abandons⟩ := RunProgress.exists_abandons (Prod.ext rfl (Prod.ext rfl ending))
  refine ⟨drawn, plan, dial, planned, abandons.hung, ?_, ?_, ?_, ?_, abandons.examined.1,
    abandons.examined.2, fun error fewer same => ?_⟩
  · rw [abandons.dropped]
  · rw [abandons.dropped]
  · rw [abandons.dropped, totals_count, Dial.failure, totals_recordOutcome]
    rfl
  · rw [failover_of_plan planned, abandons.cancelled, abandons.dropped]
  · rw [failover_of_plan planned, abandons.failed error fewer same, abandons.dropped]

/-- The first provider of a model is half-open, and its probe is out, so the run skips it.  The
second never answers. -/
theorem abandonment_law_pair :
    let probed := ((Breaker.fresh .standard).enter .halfOpen Clock.start.moment).admitProbe
      Clock.start.moment.instant
    let engine := { Engine.pair "model" "alpha" "beta" with
      bank := (Bank.ofDefaults .standard).put "alpha" probed }
    let request := PlanRequest.forModel "model"
    let caller : Caller Unit := ⟨fun _ _ => false, fun _ state engine =>
      ⟨state, engine.advance (Duration.ofSeconds 5), .dropped⟩⟩
    let dropped := (engine.failover caller request 3 ()).1
    engine.failover caller request 3 () = (dropped, (), .ok .dropped) ∧
      ∃ failed cancellation report, dropped = failed.count .cancellations ∧
        engine.failover (caller.resolving .cancelled) request 3 () =
          (dropped, (), .ok (.finished cancellation)) ∧
        cancellation.records.map (fun record => (record.outcome, record.lastResort)) =
          [(.skipped, false), (.cancelled, false)] ∧
        engine.failover (caller.resolving (.failed "late")) request 3 () =
          (failed, (), .ok (.finished report)) := by
  intro probed engine request caller dropped
  have planned : engine.plan request = (engine.count .plans, .ok
      [⟨"alpha", "alpha", 0, .halfOpen⟩, ⟨"beta", "beta", 1, .closed⟩]) :=
    plan_pair_at (by decide) "model" engine.clock engine.bank nofun
  have ended : (engine.failover caller request 3 ()).2 = ((), .ok .dropped) := by
    rw [failover_of_plan planned]
    rfl
  have hung : engine.failover caller request 3 () = (dropped, (), .ok .dropped) :=
    Prod.ext rfl ended
  obtain ⟨drawn, plan, dial, drawing, -, -, counted, -, cancelled, -, -, failed⟩ :=
    abandonment_law caller hung
  obtain ⟨-, same⟩ := Prod.mk.inj (planned.symm.trans drawing)
  obtain rfl := Except.ok.inj same
  -- the call is that of the second attempt, since two attempts are reported when it is cancelled
  obtain ⟨report, ran, outcomes, count⟩ : ∃ report,
      (engine.failover (caller.resolving .cancelled) request 3 ()).2.2 = .ok (.finished report) ∧
        report.records.map (fun record => (record.outcome, record.lastResort)) =
          [(.skipped, false), (.cancelled, false)] ∧
        report.records.countP (!·.lastResort) = 2 := by
    rw [failover_of_plan planned]
    exact ⟨_, rfl, rfl, rfl⟩
  rw [cancelled] at ran
  cases ran
  have second : dial.examined = 2 := (Dial.examined_eq_countP .cancelled).trans count
  exact ⟨hung, dial.failure caller, _, _, counted, cancelled, outcomes, failed "late" 3 second.symm⟩

end Engine

end ProviderRouting
