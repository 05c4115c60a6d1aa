import ProviderRouting.Proofs.Breaker.Dispatch
import ProviderRouting.Proofs.Engine.RunShape

/-!
# Outages

When all breakers that a run asks deny it, nothing comes of it for them but the rejections that
they count.  Unless the run is told to stop before it has asked them all, it then calls the provider
of its first attempt without leave.  The outcome of that call counts in the totals and in the window
of the provider's breaker, and changes nothing else about it.
-/

namespace ProviderRouting

/-- The breaker once it has rejected some more calls. -/
def Breaker.rejecting (calls : Nat) (breaker : Breaker) : Breaker :=
  { breaker with rejections := breaker.rejections + calls }

namespace Engine

/-- What denying attempts, one after another, makes of an engine: every breaker has rejected the
calls to its provider, and is otherwise as it was. -/
structure AfterDenials (attempts : List Attempt) (before after : Engine) : Prop where
  /-- Only breakers that exist and are not closed deny anything. -/
  barred : ∀ attempt ∈ attempts, ∃ breaker,
    before.bank.get? attempt.provider = some breaker ∧ breaker.phase ≠ .closed
  breakers : ∀ name, after.bank.get? name =
    (before.bank.get? name).map (Breaker.rejecting (attempts.countP (·.provider = name)))
  defaults : after.bank.defaults = before.bank.defaults
  overrides : after.bank.overrides = before.bank.overrides
  /-- The rejections are reported, and no change of phase. -/
  journal : after.journal = before.journal ++ attempts.map (⟨·.provider, .rejected⟩)

/-- What recording the outcome of a call of last resort makes of an engine. -/
structure AfterBypass (provider : String) (succeeded : Bool) (before after : Engine) : Prop where
  bank : after.bank = before.bank.put provider
    ((before.bank.getOrFresh provider).tally succeeded before.clock.moment)
  journal : after.journal = before.journal

variable {before after asked called : Engine} {attempts : List Attempt} {attempt : Attempt}
  {provider : String} {succeeded : Bool}

theorem afterDenials_nil (engine : Engine) : engine.AfterDenials [] engine where
  barred _ member := absurd member List.not_mem_nil
  breakers _ := Option.map_id_apply.symm
  defaults := rfl
  overrides := rfl
  journal := (List.append_nil _).symm

theorem AfterDenials.of_same (denials : before.AfterDenials attempts asked)
    (bank : after.bank = asked.bank) (journal : after.journal = asked.journal) :
    before.AfterDenials attempts after := by
  obtain ⟨barred, breakers, defaults, overrides, journals⟩ := denials
  rw [← bank] at breakers defaults overrides
  exact ⟨barred, breakers, defaults, overrides, journal.trans journals⟩

/-- One more attempt is denied. -/
theorem AfterDenials.deny (denials : before.AfterDenials attempts after)
    (denied : after.onBank (.allow attempt.provider) = (asked, false)) :
    before.AfterDenials (attempts ++ [attempt]) asked := by
  obtain ⟨breaker, held, barred, rejected⟩ := Bank.allow_of_denied (congrArg Prod.snd denied)
  obtain rfl : (after.onBank (.allow attempt.provider)).1 = asked := congrArg Prod.fst denied
  have bank : (after.onBank (.allow attempt.provider)).1.bank =
      after.bank.put attempt.provider (breaker.rejecting 1) := congrArg Bank.Outcome.bank rejected
  have reported : (after.onBank (.allow attempt.provider)).1.journal =
      after.journal ++ [⟨attempt.provider, .rejected⟩] :=
    congrArg (fun outcome : Bank.Outcome => after.journal ++ outcome.events) rejected
  obtain ⟨origin, was, rfl⟩ :=
    Option.map_eq_some_iff.mp ((denials.breakers attempt.provider).symm.trans held)
  refine ⟨fun other member => ?_, fun name => ?_, ?_, ?_, ?_⟩
  · rcases List.mem_append.mp member with earlier | last
    · exact denials.barred other earlier
    · rw [List.mem_singleton.mp last]
      exact ⟨origin, was, barred⟩
  · rw [bank, Bank.get?_put, List.countP_append, List.countP_singleton]
    by_cases own : attempt.provider = name
    · subst own
      rw [if_pos rfl, was, if_pos (decide_eq_true rfl), Option.map_some]
      rfl
    · rw [if_neg own, denials.breakers, if_neg (by simpa using own), Nat.add_zero]
  · rw [bank]
    exact denials.defaults
  · rw [bank]
    exact denials.overrides
  · rw [reported, denials.journal, List.map_append, List.append_assoc]
    rfl

theorem afterBypass_recordOutcome (provider : String) (succeeded : Bool) (latency : Duration)
    (engine : Engine) :
    engine.AfterBypass provider succeeded
      (engine.recordOutcome provider succeeded latency true) where
  bank := rfl
  journal := List.append_nil _

theorem AfterBypass.of_same (bypassed : called.AfterBypass provider succeeded before)
    (bank : after.bank = before.bank) (journal : after.journal = before.journal) :
    called.AfterBypass provider succeeded after :=
  ⟨bank.trans bypassed.bank, journal.trans bypassed.journal⟩

/-- If nobody else touches the breakers meanwhile, the provider called has one more outcome in its
totals and its window, and every breaker is otherwise as the denials left it. -/
theorem AfterBypass.get?_of_same (bypassed : called.AfterBypass provider succeeded after)
    (denials : before.AfterDenials attempts asked) (undisturbed : called.bank = asked.bank)
    (member : attempt ∈ attempts) (own : attempt.provider = provider) (name : String) :
    after.bank.get? name = (before.bank.get? name).map fun breaker =>
      let rejecting := breaker.rejecting (attempts.countP (·.provider = name))
      if provider = name then rejecting.tally succeeded called.clock.moment else rejecting := by
  obtain ⟨breaker, was, -⟩ := denials.barred attempt member
  rw [own] at was
  rw [bypassed.bank, Bank.get?_put, undisturbed]
  by_cases same : provider = name
  · subst same
    have held := denials.breakers provider
    rw [was] at held ⊢
    rw [Bank.getOrFresh_of_some held]
    simp
  · simp [same, denials.breakers]

end Engine

/-- Whether a call that ends this way counts as a success. -/
def CallEnd.success : CallEnd → Bool
  | .succeeded _ => true
  | .failed _ | .cancelled | .dropped => false

namespace Run

/-- A run that has called its last resort: it had asked the breakers of all its attempts, and it
made no other call. -/
structure Resorts (best : Attempt) (run : Run) : Prop where
  head : run.examined.head? = some best
  through : run.asks.map (·.1) = run.examined
  calls : run.calls = [(best, true)]
  unstopped : RunEvent.stopped ∉ run.events

variable {run : Run} {engine : Engine} {best : Attempt}

theorem Resorts.moved (resorts : run.Resorts best) (place : RunPlace) (report : RunReport) :
    { run with place := place, report := report }.Resorts best :=
  ⟨resorts.head, resorts.through, resorts.calls, resorts.unstopped⟩

theorem asks_subset_advance (stopped : Bool) (engine : Engine) (run : Run) :
    run.asks ⊆ (run.advance stopped engine).2.asks := by
  refine advance_cases stopped engine run ?waiting ?told ?denied ?admitted ?resorted ?ended
  case waiting => exact fun _ => List.Subset.refl _
  case told =>
    intro attempt rest _
    rw [stop_asks]
    exact List.Subset.refl _
  case denied =>
    intro attempt rest asked _ _
    rw [skip_asks, asked_asks]
    exact List.subset_append_left _ _
  case admitted =>
    intro attempt rest asked _ _
    rw [dial_asks, asked_asks]
    exact List.subset_append_left _ _
  case resorted =>
    intro best others _ _ _
    rw [dial_asks]
    exact List.Subset.refl _
  case ended => exact fun _ _ => List.Subset.refl _

/-- A call of last resort that comes to its end leaves its outcome and nothing more. -/
theorem Resorts.settle {started : Int} (resorts : run.Resorts best)
    (here : run.place = .calling best true started []) (ending : CallEnd) (engine : Engine) :
    let settled := run.settle ending engine
    settled.2.Resorts best ∧ engine.AfterBypass best.provider ending.success settled.1 ∧
      (settled.2.place = .examining [] ∨ settled.2.place = .finished ∨
        settled.2.place = .dropped best) := by
  intro settled
  have noted : (run.note (.ended ending)).Resorts best := by
    refine ⟨resorts.head, ?_, ?_, ?_⟩
    · rw [ended_asks]
      exact resorts.through
    · rw [ended_calls]
      exact resorts.calls
    · simpa using resorts.unstopped
  have recorded (succeeded : Bool) := Engine.afterBypass_recordOutcome best.provider succeeded
    (elapsedSince engine.clock.moment.instant started) engine
  simp only [settled, Run.settle, here]
  cases ending with
  | succeeded response =>
      refine ⟨noted.moved _ _, ?_, .inr (.inl rfl)⟩
      exact (recorded true).of_same (RunProgress.bank_close _) (RunProgress.journal_close _)
  | failed error => exact ⟨noted.moved _ _, recorded false, .inl rfl⟩
  | cancelled =>
      refine ⟨noted.moved _ _, ?_, .inr (.inl rfl)⟩
      exact (recorded false).of_same (RunProgress.bank_close _) (RunProgress.journal_close _)
  | dropped => exact ⟨noted.moved _ _, (recorded false).of_same rfl rfl, .inr (.inr rfl)⟩

end Run

namespace Situation

variable {σ : Type} {caller : Caller σ} {before : Engine} {state : σ} {first now : Situation σ}

/-- How far a run has come whose attempts were all denied so far.  It began with the engine
`before`, and the caller was in the state `state`. -/
inductive Rebuffed (caller : Caller σ) (before : Engine) (state : σ) (now : Situation σ) : Prop
  /-- It has called nobody. -/
  | examining (rest : List Attempt) (here : now.run.place = .examining rest)
      (uncalled : now.run.calls = []) (idle : now.state = state)
      (denials : before.AfterDenials (now.run.asks.map (·.1)) now.engine)
  /-- It was told to stop before it had asked all breakers. -/
  | stopped (rest : List Attempt) (left : rest ≠ []) (here : now.run.place = .finished)
      (stopped : RunEvent.stopped ∈ now.run.events) (uncalled : now.run.calls = [])
      (path : now.run.asks.map (·.1) ++ rest = now.run.examined)
      (denials : before.AfterDenials (now.run.asks.map (·.1)) now.engine)
  /-- Its call of last resort is in flight. -/
  | calling (best : Attempt) (started : Int) (here : now.run.place = .calling best true started [])
      (resorts : now.run.Resorts best) (idle : now.state = state)
      (denials : before.AfterDenials (now.run.asks.map (·.1)) now.engine)
  /-- Its call of last resort is over. -/
  | called (best : Attempt) (asked : Engine)
      (here : now.run.place = .examining [] ∨ now.run.place = .finished ∨
        now.run.place = .dropped best)
      (resorts : now.run.Resorts best)
      (denials : before.AfterDenials (now.run.asks.map (·.1)) asked)
      (bypassed : (caller.call best state asked).engine.AfterBypass best.provider
        (caller.call best state asked).ending.success now.engine)

theorem asks_subset_next (caller : Caller σ) (now : Situation σ) :
    now.run.asks ⊆ (now.next caller).run.asks := by
  rw [next]
  split
  · rw [Run.settle_asks]
    exact List.Subset.refl _
  · exact Run.asks_subset_advance _ _ _

theorem rebuffed_advance {run : Run} {engine : Engine} {rest : List Attempt}
    (standing : run.Standing) (here : run.place = .examining rest) (uncalled : run.calls = [])
    (denials : before.AfterDenials (run.asks.map (·.1)) engine) (stopped : Bool) :
    (∀ ask ∈ (run.advance stopped engine).2.asks, ask.2 = false) →
      Rebuffed caller before state
        ⟨(run.advance stopped engine).1, state, (run.advance stopped engine).2⟩ := by
  obtain ⟨undecided, planned, resort, ledger⟩ := standing.examining here
  have untried : run.report.tried = 0 := by rw [ledger.tried_eq, uncalled, List.length_nil]
  refine Run.advance_cases stopped engine run ?waiting ?told ?denied ?admitted ?resorted ?ended
  case waiting =>
    intro elsewhere
    exact absurd here (elsewhere rest)
  case told =>
    intro attempt others waiting _
    have asks := Run.stop_asks engine run
    have path := ledger.path
    obtain rfl : rest = attempt :: others := RunPlace.examining.inj (here.symm.trans waiting)
    refine .stopped (attempt :: others) (List.cons_ne_nil _ _) rfl ?_ ?_ ?_ ?_
    · exact List.mem_append_right _ (List.mem_singleton_self _)
    · exact (Run.stop_calls engine run).trans uncalled
    · rwa [asks]
    · rw [asks]
      exact denials.of_same (RunProgress.bank_close _) (RunProgress.journal_close _)
  case denied =>
    intro attempt others asked _ answer _
    have asks := (Run.skip_asks attempt others asked _).trans (Run.asked_asks attempt false run)
    refine .examining others rfl ((Run.asked_calls attempt false run).trans uncalled) rfl ?_
    rw [asks, List.map_append]
    exact (denials.of_same (Run.bank_enter engine run) (Run.journal_enter engine run)).deny answer
  case admitted =>
    intro attempt others asked _ _ denied
    have admitted : (attempt, true) ∈
        ((run.note (.asked attempt true)).dial attempt false others asked).2.asks := by simp
    exact absurd (denied _ admitted).symm Bool.false_ne_true
  case resorted =>
    intro best others through candidates _ _
    have asks := Run.dial_asks best true [] (engine.count .lastResorts) run
    have path := ledger.path
    obtain rfl : rest = [] := RunPlace.examining.inj (here.symm.trans through)
    refine .calling best _ rfl ⟨?_, ?_, ?_, ?_⟩ rfl ?_
    · exact (congrArg List.head? candidates).trans rfl
    · rw [asks]
      exact (List.append_nil _).symm.trans path
    · exact (Run.dial_calls best true [] _ run).trans (by rw [uncalled, List.nil_append])
    · simpa [Run.dial] using undecided.unstopped
    · rw [asks]
      exact denials.of_same rfl rfl
  case ended =>
    intro _ unexamined
    exact absurd (unexamined untried undecided.uncancelled) ledger.nonempty

/-- Each step of a run whose attempts are all denied goes on so. -/
theorem Rebuffed.next (rebuffed : Rebuffed caller before state now) (standing : now.run.Standing)
    (denied : ∀ ask ∈ (now.next caller).run.asks, ask.2 = false) :
    Rebuffed caller before state (now.next caller) := by
  obtain ⟨engine, idler, run⟩ := now
  cases rebuffed with
  | examining rest here uncalled idle denials =>
      obtain rfl : idler = state := idle
      rw [next_of_examining here] at denied ⊢
      exact rebuffed_advance standing here uncalled denials _ denied
  | stopped rest left here stopped uncalled path denials =>
      have ended : run.ending? = some (.finished run.report) := by rw [Run.ending?, here]
      rw [next_of_ended ended]
      exact .stopped rest left here stopped uncalled path denials
  | calling best started here resorts idle denials =>
      obtain rfl : idler = state := idle
      have asks := Run.settle_asks (caller.call best idler engine).ending
        (caller.call best idler engine).engine run
      obtain ⟨resorted, bypassed, place⟩ := resorts.settle here
        (caller.call best idler engine).ending (caller.call best idler engine).engine
      rw [next_of_calling here]
      refine .called best engine place resorted ?_ bypassed
      rwa [asks]
  | called best asked here resorts denials bypassed =>
      have settled {ending : RunEnd} (ended : run.ending? = some ending) :
          Rebuffed caller before state (next caller ⟨engine, idler, run⟩) := by
        rw [next_of_ended ended]
        exact .called best asked here resorts denials bypassed
      rcases here with here | here | here
      · obtain ⟨-, planned, resort, ledger⟩ := standing.examining here
        have tried : ¬(run.report.tried = 0 ∧ !run.report.cancelled) := by
          rw [ledger.tried_eq, resorts.calls]
          exact fun untried => Nat.one_ne_zero untried.1
        rw [next_of_examining here, Run.advance_of_examined here, Run.conclude_of_settled tried]
        exact .called best asked (.inr (.inl rfl)) (resorts.moved _ _) denials
          (bypassed.of_same (RunProgress.bank_close _) (RunProgress.journal_close _))
      · exact settled (by rw [Run.ending?, here])
      · exact settled (by rw [Run.ending?, here])

theorem Leads.rebuffed (leads : Leads caller first now) (standing : first.run.Standing)
    (rebuffed : Rebuffed caller before state first) (denied : ∀ ask ∈ now.run.asks, ask.2 = false) :
    Rebuffed caller before state now := by
  induction leads with
  | refl => exact rebuffed
  | tail steps step ih =>
      subst step
      refine (ih fun ask member => ?_).next (Leads.standing steps standing) denied
      exact denied ask (asks_subset_next caller _ member)

end Situation

namespace Engine

variable {σ : Type} {caller : Caller σ} {plan : List Attempt} {limit : Nat} {state : σ}
  {engine : Engine} {last : Situation σ}

/-- How a run ends whose attempts were all denied. -/
inductive Weathers (caller : Caller σ) (plan : List Attempt) (limit : Nat) (state : σ)
    (engine : Engine) (last : Situation σ) : Prop
  /-- It was told to stop before it had asked all breakers that it may ask.  Then it called nobody,
  and left what the denials left. -/
  | stopped (rest : List Attempt) (left : rest ≠ [])
      (path : last.run.asks.map (·.1) ++ rest = plan.take (max limit 1))
      (stopped : RunEvent.stopped ∈ last.run.events) (uncalled : last.run.calls = [])
      (denials : engine.AfterDenials (last.run.asks.map (·.1)) last.engine)
  /-- Else it called the first provider of the plan, and no other.  Besides what happened while the
  call was in flight, it left what the denials left and the outcome of the call. -/
  | resorted (best : Attempt) (asked : Engine) (unstopped : RunEvent.stopped ∉ last.run.events)
      (through : last.run.asks.map (·.1) = plan.take (max limit 1)) (head : plan.head? = some best)
      (calls : last.run.calls = [(best, true)])
      (denials : engine.AfterDenials (last.run.asks.map (·.1)) asked)
      (bypassed : (caller.call best state asked).engine.AfterBypass best.provider
        (caller.call best state asked).ending.success last.engine)
      (undisturbed : (caller.call best state asked).engine.bank = asked.bank → ∀ name,
        last.engine.bank.get? name = (engine.bank.get? name).map fun breaker =>
          let rejecting :=
            breaker.rejecting ((last.run.asks.map (·.1)).countP (·.provider = name))
          if best.provider = name then
            rejecting.tally (caller.call best state asked).ending.success
              (caller.call best state asked).engine.clock.moment
          else rejecting)

theorem weathers_of_rebuffed {ending : RunEnd}
    (rebuffed : Situation.Rebuffed caller engine state last)
    (examined : last.run.examined = plan.take (max limit 1))
    (ended : last.run.ending? = some ending) : engine.Weathers caller plan limit state last := by
  cases rebuffed with
  | examining rest here => simp [Run.ending?, here] at ended
  | calling best started here => simp [Run.ending?, here] at ended
  | stopped rest left _ stopped uncalled path denials =>
      exact .stopped rest left (path.trans examined) stopped uncalled denials
  | called best asked _ resorts denials bypassed =>
      have through := resorts.through.trans examined
      have head : plan.head? = some best := by
        have positive : max limit 1 ≠ 0 := by omega
        rw [← resorts.head, examined, List.head?_take, if_neg positive]
      have member : best ∈ last.run.asks.map (·.1) := by
        rw [resorts.through]
        exact List.mem_of_head? resorts.head
      exact .resorted best asked resorts.unstopped through head resorts.calls denials bypassed
        fun undisturbed => bypassed.get?_of_same denials undisturbed member rfl

theorem weathers_of_leads {request : PlanRequest} {drawn : Engine} {ending : RunEnd}
    (made : engine.plan request = (drawn, .ok plan))
    (leads : let begun := Run.begin request.model plan limit drawn
      Situation.Leads caller ⟨begun.1, state, begun.2⟩ last)
    (ended : last.run.ending? = some ending) (denied : ∀ ask ∈ last.run.asks, ask.2 = false) :
    engine.Weathers caller plan limit state last := by
  have bank : drawn.bank = engine.bank := by rw [← bank_plan request engine, made]
  have journal : drawn.journal = engine.journal := by rw [← journal_plan request engine, made]
  let begun := Run.begin request.model plan limit drawn
  have rebuffed : Situation.Rebuffed caller engine state ⟨begun.1, state, begun.2⟩ :=
    .examining _ rfl rfl rfl ((afterDenials_nil engine).of_same bank journal)
  have standing := Run.standing_begin request.model (plan_ne_nil made) limit drawn
  exact weathers_of_rebuffed (leads.rebuffed standing rebuffed denied) leads.examined ended

/-- Every failover run whose request can be planned and whose attempts are all denied weathers the
outage: breakers count the calls that they rejected, the breaker of the first provider counts the
outcome of the call of last resort, and nothing else becomes of any breaker. -/
theorem outage_law {σ : Type} (caller : Caller σ) {request : PlanRequest} {plan : List Attempt}
    {engine drawn : Engine} (made : engine.plan request = (drawn, .ok plan)) (limit : Nat)
    (state : σ) :
    let begun := Run.begin request.model plan limit drawn
    ∃ last ending, Situation.Leads caller ⟨begun.1, state, begun.2⟩ last ∧
      last.run.ending? = some ending ∧
      engine.failover caller request limit state = (last.engine, last.state, .ok ending) ∧
      ((∀ ask ∈ last.run.asks, ask.2 = false) →
        engine.Weathers caller plan limit state last) := by
  intro begun
  obtain ⟨last, ending, leads, ended, result⟩ := Situation.leads_failover caller made limit state
  exact ⟨last, ending, leads, ended, result, weathers_of_leads made leads ended⟩

/-- Both providers of a model are open, and the call of last resort is cancelled. -/
theorem outage_law_pair :
    let opened := (Breaker.fresh .standard).enter .opened Clock.start.moment
    let engine := { Engine.pair "model" "alpha" "beta" with
      bank := ((Bank.ofDefaults .standard).put "alpha" opened).put "beta" opened }
    let caller : Caller Unit :=
      ⟨fun _ _ => false, fun _ state engine => ⟨state, engine, .cancelled⟩⟩
    let after := (engine.failover caller (.forModel "model") 3 ()).1
    (∃ moment, after.bank.get? "alpha" = some ((opened.rejecting 1).tally false moment)) ∧
      after.bank.get? "beta" = some (opened.rejecting 1) ∧
      after.journal = [⟨"alpha", .rejected⟩, ⟨"beta", .rejected⟩] := by
  intro opened engine caller after
  let plan : List Attempt := [⟨"alpha", "alpha", 0, .opened⟩, ⟨"beta", "beta", 1, .opened⟩]
  have planned : engine.plan (.forModel "model") = (engine.count .plans, .ok plan) :=
    plan_pair_at (by decide) "model" engine.clock engine.bank fun _ => rfl
  obtain ⟨last, ending, leads, ended, result, weathers⟩ := outage_law caller planned 3 ()
  -- it asks twice, calls, and ends
  let begun := Run.begin "model" plan 3 (engine.count .plans)
  let first : Situation Unit := ⟨begun.1, (), begun.2⟩
  let final := (((first.next caller).next caller).next caller).next caller
  have steps : Situation.Leads caller first final :=
    .tail (.tail (.tail (.single rfl) rfl) rfl) rfl
  have finished : final.run.ending? = some (.finished final.run.report) := rfl
  obtain rfl : last = final := leads.eq_of_ended ended steps finished
  have denied : ∀ ask ∈ final.run.asks, ask.2 = false := by decide
  have kept : after = final.engine := congrArg Prod.fst result
  rw [kept]
  cases weathers denied with
  | stopped _ _ _ stopped => exact absurd stopped (by decide)
  | resorted best asked _ _ head _ denials bypassed undisturbed =>
      obtain rfl := Option.some.inj head
      have through : final.run.asks.map (·.1) = plan := by decide
      rw [through] at denials undisturbed
      refine ⟨⟨_, undisturbed rfl "alpha"⟩, undisturbed rfl "beta", ?_⟩
      rw [bypassed.journal]
      exact denials.journal

/-- Both providers of a model are open.  The run is told to stop when the first has rejected it, so
it calls neither: the breaker it asked has one more rejection and no other outcome. -/
theorem outage_stopped_early :
    let opened := (Breaker.fresh .standard).enter .opened Clock.start.moment
    let engine := { Engine.pair "model" "alpha" "beta" with
      bank := ((Bank.ofDefaults .standard).put "alpha" opened).put "beta" opened }
    let caller : Caller Unit :=
      ⟨fun _ engine => !engine.journal.isEmpty, fun _ state engine => ⟨state, engine, .cancelled⟩⟩
    let after := engine.failover caller (.forModel "model") 3 ()
    (∃ report, after.2.2 = .ok (.finished report) ∧ report.cancelled = true ∧
        report.records = [⟨"alpha", "alpha", 0, .skipped, none, false⟩]) ∧
      after.1.bank.get? "alpha" = some (opened.rejecting 1) ∧
      after.1.bank.get? "beta" = some opened := by
  intro opened engine caller after
  have planned : engine.plan (.forModel "model") = (engine.count .plans, .ok
      [⟨"alpha", "alpha", 0, .opened⟩, ⟨"beta", "beta", 1, .opened⟩]) :=
    plan_pair_at (by decide) "model" engine.clock engine.bank fun _ => rfl
  simp only [after, failover, planned]
  exact ⟨⟨_, rfl, rfl, rfl⟩, rfl, rfl⟩

end Engine

end ProviderRouting
