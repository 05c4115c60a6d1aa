import ProviderRouting.Proofs.Engine.Outages
import ProviderRouting.Proofs.Plan.Planning

/-!
# What runs say about outages

A run that calls a last resort, or whose report says that all circuits are broken, has been denied
by every breaker that it asked.  It need not have asked all: it examines so many attempts at most,
and it may be told to stop.  Open providers come last in a plan, so when a provider that it left
unexamined is closed, those that it asked are half-open.
-/

namespace ProviderRouting

namespace Run

variable {run : Run} {planned : List AttemptRecord} {resort : Option AttemptRecord}
  {rest : List Attempt} {engine : Engine}

/-- The report of a run says that all circuits are broken when some breaker was asked and none
admitted anything. -/
theorem Ledger.allCircuitBroken_iff (ledger : run.Ledger planned resort rest) :
    run.report.allCircuitBroken = true ↔
      run.asks ≠ [] ∧ ∀ ask ∈ run.asks, ask.2 = false := by
  have front : run.report.records.filter (!·.lastResort) = planned := by
    have kept : planned.filter (!·.lastResort) = planned := by
      refine List.filter_eq_self.2 fun record member => ?_
      obtain ⟨ask, -, answers⟩ := exists_related ledger.recorded member
      rw [answers.planned]
      rfl
    have dismissed : resort.toList.filter (!·.lastResort) = [] := by
      refine List.filter_eq_nil_iff.2 fun record member => ?_
      rw [(ledger.resort record (Option.mem_toList.1 member)).marked]
      exact Bool.false_ne_true
    rw [ledger.records, List.filter_append, kept, dismissed, List.append_nil]
  have nonempty : planned ≠ [] ↔ run.asks ≠ [] := by
    rw [← List.length_pos_iff, ← List.length_pos_iff, ledger.recorded.length_eq]
  have skipped : (∀ record ∈ planned, record.outcome = .skipped) ↔
      ∀ ask ∈ run.asks, ask.2 = false := ⟨ledger.denied, ledger.skipped⟩
  rw [← nonempty, ← skipped]
  simp only [RunReport.allCircuitBroken, front, Bool.and_eq_true, Bool.not_eq_true',
    List.all_eq_true, ← Bool.not_eq_true, List.isEmpty_iff, AttemptOutcome.wasCalled_iff, not_not,
    ne_eq]

/-- All breakers that a run may ask were asked, and all denied. -/
structure Forsaken (run : Run) : Prop where
  through : run.asks.map (·.1) = run.examined
  denied : ∀ ask ∈ run.asks, ask.2 = false

theorem Ledger.forsaken (ledger : run.Ledger planned resort rest)
    (resorted : ∃ call ∈ run.calls, call.2 = true) : run.Forsaken := by
  obtain ⟨call, made, last⟩ := resorted
  obtain ⟨record, listed, tells⟩ := exists_related ledger.called.flip made
  have member := (List.mem_filter.1 listed).1
  rw [ledger.records] at member
  rcases List.mem_append.1 member with early | late
  · obtain ⟨ask, -, answers⟩ := exists_related ledger.recorded early
    exact absurd (answers.planned.symm.trans (tells.lastResort.trans last)) Bool.false_ne_true
  · have resort := ledger.resort record (Option.mem_toList.1 late)
    exact ⟨resort.through, resort.denied⟩

theorem Standing.forsaken (standing : run.Standing)
    (undropped : ∀ attempt, run.place ≠ .dropped attempt)
    (resorted : ∃ call ∈ run.calls, call.2 = true) : run.Forsaken := by
  cases here : run.place with
  | examining rest =>
      obtain ⟨-, planned, resort, ledger⟩ := standing.examining here
      exact ledger.forsaken resorted
  | calling attempt lastResort started rest =>
      obtain ⟨-, ledgers⟩ := standing.calling here
      obtain ⟨planned, resort, ledger⟩ := ledgers .succeeded 0 rfl
      have forsaken := ledger.forsaken resorted
      exact ⟨forsaken.through, forsaken.denied⟩
  | finished =>
      rw [Standing, here] at standing
      obtain ⟨planned, resort, rest, ledger, -⟩ := standing
      exact ledger.forsaken resorted
  | dropped attempt => exact absurd here (undropped attempt)

theorem Standing.settled {report : RunReport} (standing : run.Standing)
    (ended : run.ending? = some (.finished report)) : run.report = report ∧ run.Settled := by
  cases here : run.place with
  | finished =>
      rw [Standing, here] at standing
      rw [ending?, here] at ended
      exact ⟨RunEnd.finished.inj (Option.some.inj ended), standing⟩
  | examining _ | calling _ _ _ _ | dropped _ => simp [ending?, here] at ended

theorem advance_undropped (here : run.place = .examining rest) (stopped : Bool)
    (engine : Engine) (attempt : Attempt) :
    (run.advance stopped engine).2.place ≠ .dropped attempt := by
  refine advance_cases stopped engine run ?_ ?_ ?_ ?_ ?_ ?_ <;> intros
  all_goals simp_all [stop, finish, skip, dial]

/-- What a run knows of its plan when it says that all circuits are broken. -/
structure Judges (plan : List Attempt) (limit : Nat) (unexamined : List Attempt) (run : Run) :
    Prop where
  /-- It asked the breakers at the front of the plan. -/
  path : run.asks.map (·.1) ++ unexamined = plan
  /-- It asked some. -/
  asked : run.asks ≠ []
  /-- They all denied, and none was closed. -/
  denied : ∀ ask ∈ run.asks, ask.2 = false ∧ ask.1.phase ≠ .closed
  /-- It left the others because it may not ask more, or was told to stop. -/
  left : unexamined ≠ [] → run.asks.length = max limit 1 ∨ RunEvent.stopped ∈ run.events
  /-- No attempt of the plan is closed; or all those that it asked are half-open, and it left
  some. -/
  verdict : (∀ attempt ∈ plan, attempt.phase ≠ .closed) ∨
    (unexamined ≠ [] ∧ ∀ ask ∈ run.asks, ask.1.phase = .halfOpen)

end Run

namespace Situation

variable {σ : Type} {caller : Caller σ} {first now : Situation σ}

theorem forsaken_next (standing : now.run.Standing)
    (forsaken : (∃ call ∈ now.run.calls, call.2 = true) → now.run.Forsaken)
    (resorted : ∃ call ∈ (now.next caller).run.calls, call.2 = true) :
    (now.next caller).run.Forsaken := by
  have settled {ending : RunEnd} (ended : now.run.ending? = some ending) :
      (now.next caller).run.Forsaken := by
    rw [next_of_ended ended] at resorted ⊢
    exact forsaken resorted
  cases here : now.run.place with
  | examining rest =>
      have stands : (now.next caller).run.Standing := next_standing standing
      refine stands.forsaken (fun attempt => ?_) resorted
      rw [next_of_examining here]
      exact Run.advance_undropped here _ _ attempt
  | calling attempt lastResort started rest =>
      rw [next_of_calling here] at resorted ⊢
      have before : now.run.Forsaken := by
        refine standing.forsaken (by simp [here]) ?_
        rwa [Run.settle_calls] at resorted
      refine ⟨?_, ?_⟩
      · rw [Run.settle_asks, Run.settle_examined]
        exact before.through
      · rw [Run.settle_asks]
        exact before.denied
  | finished => exact settled (by rw [Run.ending?, here])
  | dropped attempt => exact settled (by rw [Run.ending?, here])

/-- Whoever has called a last resort was denied by all breakers that it may ask. -/
theorem Leads.forsaken (leads : Leads caller first now) (standing : first.run.Standing)
    (uncalled : first.run.calls = []) (resorted : ∃ call ∈ now.run.calls, call.2 = true) :
    now.run.Forsaken := by
  induction leads with
  | refl =>
      rw [uncalled] at resorted
      obtain ⟨call, made, -⟩ := resorted
      exact absurd made List.not_mem_nil
  | tail steps step ih =>
      subst step
      exact forsaken_next (Leads.standing steps standing) ih resorted

end Situation

namespace Engine

variable {σ : Type} {caller : Caller σ} {request : PlanRequest} {plan : List Attempt} {limit : Nat}
  {state : σ} {engine drawn : Engine} {last : Situation σ} {ending : RunEnd}

/-- What planning says about the phases of the attempts. -/
theorem phases_of_plan (made : engine.plan request = (drawn, .ok plan)) :
    (∀ attempt ∈ plan, attempt.phase = engine.bank.phase attempt.provider) ∧
      plan.Pairwise fun left right => left.phase = .opened → right.phase = .opened := by
  have answer := congrArg Prod.snd ((plan_eq engine request).symm.trans made)
  obtain ⟨offerings, isPlan⟩ := PlanningView.isPlan_of_plan answer
  exact ⟨fun _ member => isPlan.phase_eq member, isPlan.openLast⟩

/-- A run whose attempts were all denied asked the breakers at the front of its plan. -/
theorem Weathers.front (weathers : engine.Weathers caller plan limit state last) :
    ∃ rest after, last.run.asks.map (·.1) ++ rest = plan.take (max limit 1) ∧
      (rest ≠ [] → RunEvent.stopped ∈ last.run.events) ∧
      engine.AfterDenials (last.run.asks.map (·.1)) after := by
  cases weathers with
  | stopped rest left path stopped uncalled denials =>
      exact ⟨rest, _, path, fun _ => stopped, denials⟩
  | resorted best asked unstopped through head calls denials =>
      exact ⟨[], asked, (List.append_nil _).trans through, (absurd rfl ·), denials⟩

theorem Weathers.judges (weathers : engine.Weathers caller plan limit state last)
    (made : engine.plan request = (drawn, .ok plan)) (asked : last.run.asks ≠ [])
    (denied : ∀ ask ∈ last.run.asks, ask.2 = false) :
    ∃ unexamined, last.run.Judges plan limit unexamined := by
  obtain ⟨phases, openLast⟩ := phases_of_plan made
  obtain ⟨rest, after, front, told, denials⟩ := weathers.front
  have path : last.run.asks.map (·.1) ++ (rest ++ plan.drop (max limit 1)) = plan := by
    rw [← List.append_assoc, front, List.take_append_drop]
  have barred : ∀ attempt ∈ last.run.asks.map (·.1), attempt.phase ≠ .closed := by
    intro attempt member
    have planned : attempt ∈ plan := by
      rw [← path]
      exact List.mem_append_left _ member
    obtain ⟨breaker, held, barred⟩ := denials.barred attempt member
    rw [phases attempt planned, Bank.phase, held]
    exact barred
  refine ⟨rest ++ plan.drop (max limit 1), path, asked, fun ask member => ?_, ?_, ?_⟩
  · exact ⟨denied ask member, barred _ (List.mem_map_of_mem member)⟩
  · intro left
    by_cases through : rest = []
    · subst through
      have beyond : max limit 1 < plan.length := by simpa using left
      have count := congrArg List.length front
      rw [List.append_nil, List.length_map, List.length_take] at count
      exact .inl (by omega)
    · exact .inr (told through)
  · by_cases none : ∀ attempt ∈ plan, attempt.phase ≠ .closed
    · exact .inl none
    · push Not at none
      obtain ⟨attempt, planned, closed⟩ := none
      rw [← path, List.mem_append] at planned
      have beyond := planned.resolve_left fun among => barred attempt among closed
      rw [← path] at openLast
      refine .inr ⟨List.ne_nil_of_mem beyond, fun ask member => ?_⟩
      have among : ask.1 ∈ last.run.asks.map (·.1) := List.mem_map_of_mem member
      -- an open provider is followed by open ones only
      have unopened : ask.1.phase ≠ .opened := by
        intro opened
        have follows := (List.pairwise_append.mp openLast).2.2 ask.1 among attempt beyond opened
        exact Phase.noConfusion (closed.symm.trans follows)
      cases phase : ask.1.phase with
      | closed => exact absurd phase (barred ask.1 among)
      | opened => exact absurd phase unopened
      | halfOpen => rfl

/-- A failover run that calls a last resort, or reports that all circuits are broken, was denied by
all breakers that it asked, at the front of its plan.  Unless the plan goes on behind these and all
of them are half-open, no attempt of the plan is closed. -/
theorem verdict_law {σ : Type} (caller : Caller σ) {request : PlanRequest} {plan : List Attempt}
    {engine drawn : Engine} (made : engine.plan request = (drawn, .ok plan)) (limit : Nat)
    (state : σ) :
    let begun := Run.begin request.model plan limit drawn
    ∃ last ending, Situation.Leads caller ⟨begun.1, state, begun.2⟩ last ∧
      last.run.ending? = some ending ∧
      engine.failover caller request limit state = (last.engine, last.state, .ok ending) ∧
      ((∃ call ∈ last.run.calls, call.2 = true) ∨
          (∃ report, ending = .finished report ∧ report.allCircuitBroken = true) →
        ∃ unexamined, last.run.Judges plan limit unexamined) := by
  intro begun
  obtain ⟨last, ending, leads, ended, result⟩ := Situation.leads_failover caller made limit state
  refine ⟨last, ending, leads, ended, result, fun outage => ?_⟩
  have standing := Run.standing_begin request.model (plan_ne_nil made) limit drawn
  obtain ⟨asked, denied⟩ : last.run.asks ≠ [] ∧ ∀ ask ∈ last.run.asks, ask.2 = false := by
    rcases outage with resorted | ⟨report, finished, broken⟩
    · have forsaken := leads.forsaken standing rfl resorted
      refine ⟨fun none => ?_, forsaken.denied⟩
      have through := forsaken.through
      rw [none, leads.examined] at through
      have positive : max limit 1 ≠ 0 := by omega
      exact (List.take_eq_nil_iff.mp through.symm).elim positive (plan_ne_nil made)
    · subst finished
      obtain ⟨rfl, planned, resort, rest, ledger, -⟩ := (leads.standing standing).settled ended
      exact ledger.allCircuitBroken_iff.mp broken
  exact (weathers_of_leads made leads ended denied).judges made asked denied

/-- The first provider of a model is half-open, and its probe is out; the second is open.  The call
of last resort fails. -/
theorem verdict_law_pair :
    let probed := ((Breaker.fresh .standard).enter .halfOpen Clock.start.moment).admitProbe
      Clock.start.moment.instant
    let opened := (Breaker.fresh .standard).enter .opened Clock.start.moment
    let engine := { Engine.pair "model" "alpha" "beta" with
      bank := ((Bank.ofDefaults .standard).put "alpha" probed).put "beta" opened }
    let plan : List Attempt := [⟨"alpha", "alpha", 0, .halfOpen⟩, ⟨"beta", "beta", 1, .opened⟩]
    let caller : Caller Unit :=
      ⟨fun _ _ => false, fun _ state engine => ⟨state, engine, .failed "down"⟩⟩
    ∃ (last : Situation Unit) (report : RunReport),
      engine.failover caller (.forModel "model") 3 () =
        (last.engine, last.state, .ok (.finished report)) ∧
      report.allCircuitBroken = true ∧
      last.run.calls = [(⟨"alpha", "alpha", 0, .halfOpen⟩, true)] ∧
      ∃ unexamined, last.run.Judges plan 3 unexamined := by
  intro probed opened engine plan caller
  have planned : engine.plan (.forModel "model") = (engine.count .plans, .ok plan) :=
    plan_pair_at (by decide) "model" engine.clock engine.bank nofun
  obtain ⟨last, ending, leads, ended, result, judges⟩ := verdict_law caller planned 3 ()
  -- it asks twice, calls, comes back from the call, and ends
  let begun := Run.begin "model" plan 3 (engine.count .plans)
  let first : Situation Unit := ⟨begun.1, (), begun.2⟩
  let called := ((first.next caller).next caller).next caller
  let final := (called.next caller).next caller
  have steps : Situation.Leads caller first final :=
    .tail (.tail (.tail (.tail (.single rfl) rfl) rfl) rfl) rfl
  have finished : final.run.ending? = some (.finished final.run.report) := rfl
  obtain rfl : last = final := leads.eq_of_ended ended steps finished
  obtain rfl : ending = .finished final.run.report := Option.some.inj (ended.symm.trans finished)
  have broken : final.run.report.allCircuitBroken = true := by decide
  have calls : final.run.calls = [(⟨"alpha", "alpha", 0, .halfOpen⟩, true)] := by decide
  exact ⟨final, final.run.report, result, broken, calls, judges (.inr ⟨_, rfl, broken⟩)⟩

/-- The first provider of a model is half-open, and its probe is out; the second is closed.  A run
of one attempt calls the first all the same, and reports that all circuits are broken. -/
theorem verdict_overlooks_closed :
    let probed := ((Breaker.fresh .standard).enter .halfOpen Clock.start.moment).admitProbe
      Clock.start.moment.instant
    let engine := { Engine.pair "model" "alpha" "beta" with
      bank := (Bank.ofDefaults .standard).put "alpha" probed }
    let caller : Caller Unit :=
      ⟨fun _ _ => false, fun _ state engine => ⟨state, engine, .failed "down"⟩⟩
    (engine.plan (.forModel "model")).2 =
        .ok [⟨"alpha", "alpha", 0, .halfOpen⟩, ⟨"beta", "beta", 1, .closed⟩] ∧
      ∃ report, (engine.failover caller (.forModel "model") 1 ()).2.2 = .ok (.finished report) ∧
        report.allCircuitBroken = true ∧
        (∃ record ∈ report.records, record.lastResort = true) ∧
        report.summary =
          "all providers currently circuit-broken; last-resort call to alpha failed" := by
  intro probed engine caller
  have planned : engine.plan (.forModel "model") = (engine.count .plans, .ok
      [⟨"alpha", "alpha", 0, .halfOpen⟩, ⟨"beta", "beta", 1, .closed⟩]) :=
    plan_pair_at (by decide) "model" engine.clock engine.bank nofun
  refine ⟨congrArg Prod.snd planned, ?_⟩
  simp only [failover, planned]
  exact ⟨_, rfl, rfl, ⟨_, .tail _ (.head _), rfl⟩, rfl⟩

end Engine

end ProviderRouting
