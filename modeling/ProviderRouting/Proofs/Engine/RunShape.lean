import ProviderRouting.Proofs.Engine.RunLedger
import ProviderRouting.Proofs.Plan.Planning

/-!
# The shape of failover runs

What the report of a finished run can look like follows from the plan, from the limit, and from
what happened in the run.
-/

namespace ProviderRouting

namespace Run

variable {run : Run} {attempt : Attempt} {rest : List Attempt} {engine : Engine}

/-! ## The shape -/

/-- The shape of a run that came to its end: how its report follows from the plan, from the limit,
and from what happened in it.  The report lists the planned records, then perhaps one of last
resort. -/
structure HasShape (plan : List Attempt) (limit : Nat) (planned : List AttemptRecord)
    (resort : Option AttemptRecord) (run : Run) : Prop where
  /-- The planned records come first, then at most one of last resort. -/
  records : run.report.records = planned ++ resort.toList
  /-- There are at most as many planned records as attempts to examine. -/
  within : planned.length ≤ min plan.length (max limit 1)
  /-- The breakers asked are those of the first attempts of the plan, in its order. -/
  asked : run.asks.map (·.1) = plan.take planned.length
  /-- Each planned record is about the attempt asked, and skipped exactly when it was denied. -/
  recorded : List.Forall₂ AttemptRecord.Answers planned run.asks
  /-- Only the last record can end the run. -/
  final : ∀ record ∈ run.report.records.dropLast, ¬record.outcome.IsFinal
  /-- Attempts stay unexamined only when the last record ended the run, or it was told to stop. -/
  short : planned.length < min plan.length (max limit 1) →
    RunEvent.stopped ∈ run.events ∨
      ∃ last, run.report.records.getLast? = some last ∧ last.outcome.IsFinal
  /-- There is a last resort exactly when all attempts were skipped and the run went on. -/
  resorted : resort.isSome = true ↔
    planned.length = min plan.length (max limit 1) ∧
      (∀ record ∈ planned, record.outcome = .skipped) ∧ RunEvent.stopped ∉ run.events
  /-- The last resort is the best attempt, and the only call of the run. -/
  resort : ∀ record ∈ resort, record.lastResort = true ∧
    ∃ best, plan.head? = some best ∧ record.Names best ∧ run.calls = [(best, true)]
  /-- The records that are not skipped are those of the calls made, in their order. -/
  called : List.Forall₂ AttemptRecord.Tells
    (run.report.records.filter fun record => record.outcome ≠ .skipped) run.calls
  /-- As many attempts were tried as records are not skipped, and as calls were made. -/
  tried : run.report.tried = run.report.records.countP (·.outcome ≠ .skipped) ∧
    run.report.tried = run.calls.length
  /-- No provider was called twice. -/
  distinct : (run.calls.map fun call => call.1.provider).Nodup
  /-- Some provider was called, unless the run was cancelled. -/
  reached : run.report.cancelled = false → run.calls ≠ []
  /-- The run succeeded exactly when some record did. -/
  success : run.report.success = true ↔
    ∃ record ∈ run.report.records, record.outcome = .succeeded
  /-- Then its response is what the call of the last record gave, from the provider called. -/
  answered : run.report.success = true → ∃ response last,
    run.report.response = some response ∧ run.report.providerUsed = some last.provider ∧
      RunEvent.ended (.succeeded response) ∈ run.events ∧
      run.report.records.getLast? = some last ∧ last.outcome = .succeeded
  /-- Otherwise it has no response. -/
  unanswered : run.report.success = false →
    run.report.response = none ∧ run.report.providerUsed = none
  /-- The run is cancelled exactly when it was told to stop, before a breaker was asked or while a
  call was in flight. -/
  cancelled : run.report.cancelled = true ↔
    RunEvent.stopped ∈ run.events ∨
      ∃ record ∈ run.report.records, record.outcome = .cancelled

section Shape

variable {plan : List Attempt} {limit : Nat} {planned : List AttemptRecord}
  {resort : Option AttemptRecord}

theorem Ledger.length_eq (ledger : run.Ledger planned resort rest) :
    planned.length + rest.length = run.examined.length := by
  rw [← ledger.path, List.length_append, List.length_map, ledger.recorded.length_eq]

theorem Ledger.tried_eq (ledger : run.Ledger planned resort rest) :
    run.report.tried = run.calls.length := by
  rw [ledger.tried, List.countP_eq_length_filter, ledger.called.length_eq]

theorem Ledger.asked_eq (ledger : run.Ledger planned resort rest)
    (examined : run.examined = plan.take (max limit 1)) :
    run.asks.map (·.1) = plan.take planned.length := by
  have path := ledger.path
  rw [examined] at path
  have bounded : planned.length ≤ max limit 1 := by
    have total := ledger.length_eq
    rw [examined, List.length_take] at total
    omega
  have front := congrArg (List.take planned.length) path
  rw [List.take_take, Nat.min_eq_left bounded] at front
  rw [← front, ledger.recorded.length_eq, ← List.length_map (·.1), List.take_left']
  rfl

theorem Ledger.distinct (ledger : run.Ledger planned resort rest)
    (examined : run.examined = plan.take (max limit 1))
    (distinct : (plan.map (·.provider)).Nodup) :
    (run.calls.map fun call => call.1.provider).Nodup := by
  cases resort with
  | some record =>
      obtain ⟨best, -, -, calls⟩ := (ledger.resort record rfl).best
      simp [calls]
  | none =>
      have records : run.report.records = planned := by
        rw [ledger.records, Option.toList_none, List.append_nil]
      have called := map_eq_map (fun _ _ tells => tells.names.1) ledger.called
      have asked := map_eq_map (fun _ _ answers => answers.names.1) ledger.recorded
      have providers : run.asks.map (fun ask => ask.1.provider) =
          (plan.take planned.length).map (·.provider) := by
        rw [← ledger.asked_eq examined, List.map_map]
        rfl
      have front : planned.map (·.provider) <+: plan.map (·.provider) := by
        rw [asked, providers]
        exact (List.take_prefix _ _).map _
      rw [← called, records]
      exact (List.filter_sublist.map _).trans front.sublist |>.nodup distinct

theorem Decided.final_mem (decided : run.Decided) :
    ∃ record ∈ run.report.records, record.outcome.IsFinal := by
  obtain ⟨others, last, records, -, ended⟩ := decided.last
  refine ⟨last, by simp [records], ?_⟩
  rcases ended with ⟨succeeded, -⟩ | ⟨cancelled, -⟩
  · exact .inl succeeded
  · exact .inr cancelled

/-- A run at its end made a call of last resort exactly when all attempts that it may examine were
skipped and it did not notice that it was told to stop. -/
theorem Ledger.resorted_iff (ledger : run.Ledger planned resort rest)
    (verdict : run.Verdict rest) :
    resort.isSome = true ↔ planned.length = run.examined.length ∧
      (∀ record ∈ planned, record.outcome = .skipped) ∧ RunEvent.stopped ∉ run.events := by
  constructor
  · intro resorted
    obtain ⟨record, rfl⟩ := Option.isSome_iff_exists.1 resorted
    have last := ledger.resort record rfl
    have total : planned.length = run.examined.length := by
      rw [ledger.recorded.length_eq, ← last.through, List.length_map]
    refine ⟨total, ledger.skipped last.denied, ?_⟩
    cases verdict with
    | stopped _ left =>
        have length_eq := ledger.length_eq
        exact absurd (List.length_eq_zero_iff.1 (by omega)) left
    | decided decided => exact decided.unstopped
    | exhausted undecided => exact undecided.unstopped
  · rintro ⟨-, skipped, unstopped⟩
    by_contra unresorted
    obtain rfl : resort = none := by simpa using unresorted
    have records : ∀ record ∈ run.report.records, record.outcome = .skipped := by
      rw [ledger.records, Option.toList_none, List.append_nil]
      exact skipped
    cases verdict with
    | stopped stopped => exact unstopped stopped.stopped
    | decided decided =>
        obtain ⟨record, member, final⟩ := decided.final_mem
        rcases final with succeeded | cancelled
        · simp [records record member] at succeeded
        · simp [records record member] at cancelled
    | exhausted _ _ tried =>
        refine tried (ledger.tried.trans (List.countP_eq_zero.2 fun record member => ?_))
        simp [records record member, AttemptOutcome.wasCalled]

theorem Verdict.final (verdict : run.Verdict rest) :
    ∀ record ∈ run.report.records.dropLast, ¬record.outcome.IsFinal := by
  intro record member
  cases verdict with
  | stopped stopped => exact stopped.records record (List.dropLast_subset _ member)
  | decided decided =>
      obtain ⟨others, last, records, open_, -⟩ := decided.last
      rw [records, List.dropLast_concat] at member
      exact open_ record member
  | exhausted undecided => exact undecided.records record (List.dropLast_subset _ member)

theorem Verdict.short (verdict : run.Verdict rest) (left : rest ≠ []) :
    RunEvent.stopped ∈ run.events ∨
      ∃ last, run.report.records.getLast? = some last ∧ last.outcome.IsFinal := by
  cases verdict with
  | stopped stopped => exact .inl stopped.stopped
  | decided decided =>
      obtain ⟨others, last, records, -, ended⟩ := decided.last
      refine .inr ⟨last, by rw [records, List.getLast?_concat], ?_⟩
      exact ended.imp And.left And.left
  | exhausted _ none => exact absurd none left

theorem Verdict.reached (verdict : run.Verdict rest) (ledger : run.Ledger planned resort rest)
    (uncancelled : run.report.cancelled = false) : run.report.tried ≠ 0 := by
  cases verdict with
  | stopped stopped => exact absurd (uncancelled.symm.trans stopped.cancelled) Bool.false_ne_true
  | decided decided =>
      obtain ⟨record, member, final⟩ := decided.final_mem
      rw [ledger.tried]
      refine fun untried => List.countP_eq_zero.1 untried record member ?_
      rcases final with succeeded | cancelled
      · rw [succeeded]
        rfl
      · rw [cancelled]
        rfl
  | exhausted _ _ tried => exact tried

/-- The last record is of a call that succeeded, and the report holds its response; or no record is,
and it holds none. -/
theorem Verdict.replies (verdict : run.Verdict rest) :
    (∃ response last, run.report.reply = (true, some response, some last.provider) ∧
      RunEvent.ended (.succeeded response) ∈ run.events ∧
      run.report.records.getLast? = some last ∧ last.outcome = .succeeded) ∨
    (run.report.reply = (false, none, none) ∧
      ∀ record ∈ run.report.records, record.outcome ≠ .succeeded) := by
  cases verdict with
  | stopped stopped =>
      exact .inr ⟨stopped.unanswered, fun record member succeeded =>
        stopped.records record member (.inl succeeded)⟩
  | decided decided =>
      obtain ⟨others, last, records, open_, ended⟩ := decided.last
      rcases ended with ⟨succeeded, -, response, reply, noted⟩ | ⟨cancelled, -, unanswered⟩
      · exact .inl ⟨response, last, reply, noted, by rw [records, List.getLast?_concat], succeeded⟩
      · refine .inr ⟨unanswered, fun record member succeeded => ?_⟩
        rw [records] at member
        rcases List.mem_append.1 member with earlier | final
        · exact open_ record earlier (.inl succeeded)
        · obtain rfl := List.mem_singleton.1 final
          exact absurd (cancelled.symm.trans succeeded) nofun
  | exhausted undecided =>
      exact .inr ⟨undecided.unanswered, fun record member succeeded =>
        undecided.records record member (.inl succeeded)⟩

theorem Verdict.success_iff (verdict : run.Verdict rest) :
    run.report.success = true ↔ ∃ record ∈ run.report.records, record.outcome = .succeeded := by
  rcases verdict.replies with ⟨response, last, reply, -, final, succeeded⟩ | ⟨reply, none⟩
  · exact ⟨fun _ => ⟨last, List.mem_of_getLast? final, succeeded⟩, fun _ => congrArg Prod.fst reply⟩
  · refine ⟨fun success => ?_, fun ⟨record, member, succeeded⟩ => ?_⟩
    · exact absurd ((congrArg Prod.fst reply).symm.trans success) Bool.false_ne_true
    · exact absurd succeeded (none record member)

theorem Verdict.answered (verdict : run.Verdict rest) (success : run.report.success = true) :
    ∃ response last,
      run.report.response = some response ∧ run.report.providerUsed = some last.provider ∧
        RunEvent.ended (.succeeded response) ∈ run.events ∧
        run.report.records.getLast? = some last ∧ last.outcome = .succeeded := by
  rcases verdict.replies with ⟨response, last, reply, noted⟩ | ⟨reply, -⟩
  · exact ⟨response, last, congrArg (·.2.1) reply, congrArg (·.2.2) reply, noted⟩
  · exact absurd ((congrArg Prod.fst reply).symm.trans success) Bool.false_ne_true

theorem Verdict.unanswered (verdict : run.Verdict rest) (failed : run.report.success = false) :
    run.report.response = none ∧ run.report.providerUsed = none := by
  rcases verdict.replies with ⟨response, last, reply, -⟩ | ⟨reply, -⟩
  · exact absurd (failed.symm.trans (congrArg Prod.fst reply)) Bool.false_ne_true
  · exact ⟨congrArg (·.2.1) reply, congrArg (·.2.2) reply⟩

theorem Verdict.cancelled_iff (verdict : run.Verdict rest) :
    run.report.cancelled = true ↔ RunEvent.stopped ∈ run.events ∨
      ∃ record ∈ run.report.records, record.outcome = .cancelled := by
  cases verdict with
  | stopped stopped => exact ⟨fun _ => .inl stopped.stopped, fun _ => stopped.cancelled⟩
  | decided decided =>
      obtain ⟨others, last, records, open_, ended⟩ := decided.last
      rcases ended with ⟨succeeded, uncancelled, -⟩ | ⟨cancelled, flagged, -⟩
      · rw [uncancelled]
        refine ⟨nofun, fun reason => ?_⟩
        rcases reason with stopped | ⟨record, member, cancelled⟩
        · exact absurd stopped decided.unstopped
        · rw [records] at member
          rcases List.mem_append.1 member with earlier | final
          · exact absurd (.inr cancelled) (open_ record earlier)
          · obtain rfl := List.mem_singleton.1 final
            rw [succeeded] at cancelled
            exact absurd cancelled nofun
      · exact ⟨fun _ => .inr ⟨last, by simp [records], cancelled⟩, fun _ => flagged⟩
  | exhausted undecided =>
      rw [undecided.uncancelled]
      refine ⟨nofun, fun reason => ?_⟩
      rcases reason with stopped | ⟨record, member, cancelled⟩
      · exact absurd stopped undecided.unstopped
      · exact absurd (.inr cancelled) (undecided.records record member)

/-- A run of a plan that came to its end has the shape that the plan gives it. -/
theorem Settled.hasShape (settled : run.Settled)
    (examined : run.examined = plan.take (max limit 1))
    (distinct : (plan.map (·.provider)).Nodup) :
    ∃ planned resort, run.HasShape plan limit planned resort := by
  obtain ⟨planned, resort, rest, ledger, verdict⟩ := settled
  have count : run.examined.length = min plan.length (max limit 1) := by
    rw [examined, List.length_take, Nat.min_comm]
  have length_eq := ledger.length_eq
  have same (record : AttemptRecord) :
      record.outcome.wasCalled = decide (record.outcome ≠ .skipped) := by
    rw [Bool.eq_iff_iff, AttemptOutcome.wasCalled_iff, decide_eq_true_iff]
  refine ⟨planned, resort, ?_⟩
  exact {
    records := ledger.records
    within := by omega
    asked := ledger.asked_eq examined
    recorded := ledger.recorded
    final := verdict.final
    short := fun fewer => verdict.short (List.length_pos_iff.1 (by omega))
    resorted := by
      rw [← count]
      exact ledger.resorted_iff verdict
    resort := fun record member => by
      have last := ledger.resort record member
      obtain ⟨best, head, names, calls⟩ := last.best
      refine ⟨last.marked, best, ?_, names, calls⟩
      rwa [examined, List.head?_take, if_neg (by omega)] at head
    called := by simpa only [same] using ledger.called
    tried := ⟨by simpa only [same] using ledger.tried, ledger.tried_eq⟩
    distinct := ledger.distinct examined distinct
    reached := fun uncancelled none => verdict.reached ledger uncancelled (by
      rw [ledger.tried_eq, none, List.length_nil])
    success := verdict.success_iff
    answered := verdict.answered
    unanswered := verdict.unanswered
    cancelled := verdict.cancelled_iff }

end Shape

end Run

/-! ## A model of two providers -/

/-- An engine that knows one model, which two providers offer under their own names.  The second is
to be tried after the first. -/
def Engine.pair (model first second : String) : Engine :=
  let known := (Model.named model).addOffering (.basic first first)
    |>.addOffering { Offering.basic second second with priority := 1 }
  EngineSettings.build { EngineSettings.standard with registry := Registry.empty.put known } .start

theorem Engine.plan_pair_at {first second : String} (apart : first ≠ second) (model : String)
    (clock : Clock) (bank : Bank)
    (alike : bank.phase first = .opened → bank.phase second = .opened) :
    let engine := { Engine.pair model first second with clock := clock, bank := bank }
    engine.plan (.forModel model) = (engine.count .plans,
      .ok [⟨first, first, 0, bank.phase first⟩, ⟨second, second, 1, bank.phase second⟩]) := by
  intro engine
  let view := engine.planningView
  let later : Offering := { Offering.basic second second with priority := 1 }
  let offered := ((Model.named model).addOffering (.basic first first)).addOffering later
  have known : view.registry.lookup? (PlanRequest.forModel model).model = some offered := by
    simp [view, engine, offered, later, Engine.pair, Engine.planningView, EngineSettings.build,
      Registry.lookup?, Registry.put, PlanRequest.forModel, Model.dedupe, Model.named,
      Model.addOffering, Model.withOfferings, firstOfferings, Offering.basic, apart.symm]
  have ordered : view.key (.basic first first) ≤ view.key later := by
    rw [PlanningView.key, PlanningView.key, Candidate.key, Candidate.key,
      Prod.Lex.toLex_le_toLex']
    refine ⟨Bool.le_iff_imp.mpr ?_, fun _ => Prod.Lex.toLex_le_toLex.mpr (.inl Nat.zero_lt_one)⟩
    rw [PlanningView.isOpen_candidate, PlanningView.isOpen_candidate]
    exact alike
  have drawn := PlanningView.plan_of_ordered known (List.cons_ne_nil _ _) rfl
    (fun _ _ pins => Option.some_ne_none _ pins.preferred.symm) (List.pairwise_pair.mpr ordered)
  rw [Engine.plan, drawn]
  rfl

/-! ## Failover runs -/

/-- Every failover run whose request can be planned, with no provider planned twice, either comes
to its end in the shape that the plan and the limit give it, whatever the breakers answer, however
the calls end and whenever it is told to stop; or it is dropped, since a call of its never ended. -/
theorem Engine.failover_hasShape {σ : Type} (caller : Caller σ) {request : PlanRequest}
    {plan : List Attempt} {engine drawn : Engine} (made : engine.plan request = (drawn, .ok plan))
    (distinct : (plan.map (·.provider)).Nodup) (limit : Nat) (state : σ) :
    let begun := Run.begin request.model plan limit drawn
    ∃ last, Situation.Leads caller ⟨begun.1, state, begun.2⟩ last ∧
      ((∃ planned resort, last.run.HasShape plan limit planned resort ∧
          engine.failover caller request limit state =
            (last.engine, last.state, .ok (.finished last.run.report))) ∨
        (RunEvent.ended .dropped ∈ last.run.events ∧
          engine.failover caller request limit state =
            (last.engine, last.state, .ok .dropped))) := by
  intro begun
  obtain ⟨last, ending, leads, ended, result⟩ :=
    Situation.leads_failover caller made limit state
  refine ⟨last, leads, ?_⟩
  have standing : last.run.Standing :=
    leads.standing (Run.standing_begin request.model (Engine.plan_ne_nil made) limit drawn)
  have examined : last.run.examined = plan.take (max limit 1) := leads.examined
  rw [result]
  unfold Run.ending? at ended
  split at ended
  · rename_i here
    rw [Run.Standing, here] at standing
    obtain rfl := Option.some.inj ended
    obtain ⟨planned, resort, shape⟩ := standing.hasShape examined distinct
    exact .inl ⟨planned, resort, shape, rfl⟩
  · rename_i attempt here
    rw [Run.Standing, here] at standing
    obtain rfl := Option.some.inj ended
    exact .inr ⟨standing, rfl⟩
  · cases ended

/-- The first provider of a model is half-open, and its probe is out, so the run skips it and calls
the second. -/
theorem Engine.failover_hasShape_pair :
    let probed := ((Breaker.fresh .standard).enter .halfOpen Clock.start.moment).admitProbe
      Clock.start.moment.instant
    let engine := { Engine.pair "model" "alpha" "beta" with
      bank := (Bank.ofDefaults .standard).put "alpha" probed }
    let request := PlanRequest.forModel "model"
    let plan : List Attempt := [⟨"alpha", "alpha", 0, .halfOpen⟩, ⟨"beta", "beta", 1, .closed⟩]
    let caller : Caller Unit :=
      ⟨fun _ _ => false, fun _ state engine => ⟨state, engine, .failed "down"⟩⟩
    engine.plan request = (engine.count .plans, .ok plan) ∧ (plan.map (·.provider)).Nodup ∧
      ∃ (last : Situation Unit) (planned : List AttemptRecord) (resort : Option AttemptRecord),
        last.run.HasShape plan 3 planned resort ∧
        engine.failover caller request 3 () =
          (last.engine, last.state, .ok (.finished last.run.report)) ∧
        last.run.report.records.map (·.outcome) = [.skipped, .failed "down"] := by
  intro probed engine request plan caller
  have made : engine.plan request = (engine.count .plans, .ok plan) :=
    plan_pair_at (by decide) "model" engine.clock engine.bank nofun
  have distinct : (plan.map (·.provider)).Nodup := by decide
  obtain ⟨report, ran, outcomes⟩ : ∃ report,
      (engine.failover caller request 3 ()).2.2 = .ok (.finished report) ∧
        report.records.map (·.outcome) = [.skipped, .failed "down"] := by
    simp only [failover, made]
    exact ⟨_, rfl, rfl⟩
  obtain ⟨last, -, ending⟩ := failover_hasShape caller made distinct 3 ()
  rcases ending with ⟨planned, resort, shape, result⟩ | ⟨-, result⟩
  · rw [result] at ran
    cases ran
    exact ⟨made, distinct, last, planned, resort, shape, result, outcomes⟩
  · rw [result] at ran
    cases ran

end ProviderRouting
