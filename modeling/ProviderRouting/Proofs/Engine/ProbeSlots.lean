import ProviderRouting.Proofs.Breaker.Admission
import ProviderRouting.Proofs.Breaker.Dispatch
import ProviderRouting.Proofs.Engine.RunShape

/-!
# Probe slots and failover runs

A run may be admitted as the probe of a half-open breaker, and then it holds the breaker's slot.  It
holds it only while the call is in flight: whether the call succeeds, fails, is cancelled or is
dropped, its outcome gives the slot back.  A call of last resort takes no slot.
-/

namespace ProviderRouting

namespace Breaker

variable {breaker : Breaker} {moment : Moment}

/-- Only a half-open breaker has lent its probe slot. -/
def LendsHalfOpen (breaker : Breaker) : Prop := breaker.probe.isSome → breaker.phase = .halfOpen

theorem lendsHalfOpen_of_vacant (vacant : breaker.probe = none) : breaker.LendsHalfOpen := by
  rw [LendsHalfOpen, vacant]
  exact nofun

theorem Adjusted.lendsHalfOpen {after : Breaker} (adjusted : breaker.Adjusted after)
    (lends : breaker.LendsHalfOpen) : after.LendsHalfOpen := by
  obtain ⟨thresholds, window, rfl⟩ := adjusted
  exact lends

theorem Adjusted.probe_eq {after : Breaker} (adjusted : breaker.Adjusted after) :
    after.probe = breaker.probe := by
  obtain ⟨thresholds, window, rfl⟩ := adjusted
  rfl

theorem LendsHalfOpen.allow (lends : breaker.LendsHalfOpen) (moment : Moment) :
    (breaker.allow moment).breaker.LendsHalfOpen := by
  unfold Breaker.allow
  split
  · exact lends
  · split
    · exact fun _ => rfl
    · exact lends
  · rename_i halfOpen
    split <;> exact fun _ => halfOpen

theorem LendsHalfOpen.vacant_of_ne (lends : breaker.LendsHalfOpen)
    (other : breaker.phase ≠ .halfOpen) : breaker.probe = none := by
  simpa using mt lends other

theorem LendsHalfOpen.probe_recordSuccess (lends : breaker.LendsHalfOpen) (moment : Moment) :
    (breaker.recordSuccess moment).breaker.probe = none := by
  cases phase : breaker.phase with
  | closed =>
      simp only [recordSuccess, phase]
      exact lends.vacant_of_ne (by simp [phase])
  | opened =>
      simp only [recordSuccess, phase]
      exact lends.vacant_of_ne (by simp [phase])
  | halfOpen =>
      simp only [recordSuccess, phase]
      split <;> rfl

theorem LendsHalfOpen.probe_recordFailure (lends : breaker.LendsHalfOpen) (moment : Moment) :
    (breaker.recordFailure moment).breaker.probe = none := by
  cases phase : breaker.phase with
  | closed =>
      simp only [recordFailure, phase]
      split
      · rfl
      · exact lends.vacant_of_ne (by simp [phase])
  | opened =>
      simp only [recordFailure, phase]
      exact lends.vacant_of_ne (by simp [phase])
  | halfOpen => simp only [recordFailure, phase, switch, enter]

/-- An outcome frees the slot. -/
theorem LendsHalfOpen.probe_record (lends : breaker.LendsHalfOpen) (succeeded : Bool)
    (moment : Moment) :
    (breaker.apply (if succeeded then .success else .failure) moment).breaker.probe = none := by
  cases succeeded with
  | true => exact lends.probe_recordSuccess moment
  | false => exact lends.probe_recordFailure moment

/-- A half-open breaker whose slot is free admits the next call as the probe, at any time. -/
theorem allow_of_vacant (halfOpen : breaker.phase = .halfOpen) (vacant : breaker.probe = none)
    (moment : Moment) : breaker.allow moment = (breaker.admitProbe moment.instant).keep := by
  have free : breaker.probing moment.instant = false := by rw [probing, vacant]
  simp [allow, halfOpen, free]

end Breaker

/-- What is done to other breakers leaves the breaker of a provider as it is, but perhaps for its
thresholds and its window. -/
theorem Bank.adjusted_of_elsewhere {operation : BankOperation} {name : String}
    (elsewhere : operation.on name = none) (moment : Moment) (bank : Bank) :
    (bank.getOrFresh name).Adjusted ((bank.apply operation moment).bank.getOrFresh name) := by
  by_cases sets : operation.Sets
  · have quiet : operation.IsQuiet := by
      cases operation with
      | setDefault _ | setProvider _ _ => exact trivial
      | allow _ | record _ _ | bypass _ _ | reset _ | resetAll | adopt _ _ => exact sets.elim
      | snapshot _ | snapshots => exact trivial
    exact (adjusted_of_isQuiet quiet bank moment).2 name
  · rw [getOrFresh_apply_of_unset sets, elsewhere]
    exact .refl _

/-- When the probe was admitted that holds the slot of a provider, if one does. -/
def Bank.slot (name : String) (bank : Bank) : Option Int := (bank.getOrFresh name).probe

theorem Bank.allow_of_vacant {bank : Bank} {name : String} (halfOpen : bank.phase name = .halfOpen)
    (vacant : bank.slot name = none) (moment : Moment) :
    let asked := bank.allow name moment
    asked.granted = true ∧ asked.bank.phase name = .halfOpen ∧
      asked.bank.slot name = some moment.instant := by
  rw [← phase_getOrFresh] at halfOpen
  have admitted := Breaker.allow_of_vacant halfOpen vacant moment
  have becomes : (bank.allow name moment).bank.getOrFresh name =
      (bank.getOrFresh name).admitProbe moment.instant := by
    rw [getOrFresh_allow, if_pos rfl, admitted, Breaker.keep]
  refine ⟨?_, ?_, ?_⟩
  · rw [granted_allow, admitted, Breaker.keep]
  · rw [← phase_getOrFresh, becomes]
    exact halfOpen
  · rw [slot, becomes, Breaker.admitProbe]

/-- A denied call takes no slot. -/
theorem Bank.slot_allow_of_denied {bank : Bank} {provider : String} {moment : Moment}
    (denied : (bank.allow provider moment).granted = false) (name : String) :
    (bank.allow provider moment).bank.slot name = bank.slot name := by
  rw [slot, getOrFresh_allow, slot]
  split
  · rename_i own
    subst own
    rw [granted_allow] at denied
    rw [(Breaker.allow_of_denied denied).2, Breaker.reject]
  · rfl

/-- Recording the outcome of a planned call to a provider frees the provider's slot; no other
outcome touches it. -/
theorem Engine.slot_recordOutcome {engine : Engine} {name : String}
    (lends : (engine.bank.getOrFresh name).LendsHalfOpen) (provider : String) (succeeded : Bool)
    (latency : Duration) (lastResort : Bool) :
    (engine.recordOutcome provider succeeded latency lastResort).bank.slot name =
      if provider = name ∧ lastResort = false then none else engine.bank.slot name := by
  cases lastResort with
  | true =>
      rw [if_neg fun both => Bool.false_ne_true both.2.symm]
      change (engine.bank.recordBypass provider succeeded engine.clock.moment).bank.slot name = _
      rw [Bank.slot, Bank.getOrFresh_recordBypass]
      split <;> rfl
  | false =>
      change (engine.bank.record provider succeeded engine.clock.moment).bank.slot name = _
      rw [Bank.slot, Bank.getOrFresh_record]
      by_cases own : provider = name
      · have both : provider = name ∧ false = false := ⟨own, rfl⟩
        rw [if_pos own, if_pos both]
        exact lends.probe_record succeeded _
      · rw [if_neg own, if_neg fun both => own both.1]
        rfl

/-! ## Runs -/

namespace Run

variable {name : String} {engine : Engine} {run : Run}

/-- A run holds the slot of a provider only while a planned call of its to the provider is in
flight, and nobody else holds it. -/
structure Borrows (name : String) (engine : Engine) (run : Run) : Prop where
  lends : (engine.bank.getOrFresh name).LendsHalfOpen
  inFlight : engine.bank.slot name ≠ none →
    ∃ attempt started rest, run.place = .calling attempt false started rest ∧
      attempt.provider = name

theorem borrows_of_vacant (vacant : engine.bank.slot name = none) (run : Run) :
    run.Borrows name engine :=
  ⟨Breaker.lendsHalfOpen_of_vacant vacant, absurd vacant⟩

theorem Borrows.vacant (borrows : run.Borrows name engine)
    (idle : ∀ attempt started rest, run.place ≠ .calling attempt false started rest) :
    engine.bank.slot name = none := by
  by_contra held
  obtain ⟨attempt, started, rest, here, -⟩ := borrows.inFlight held
  exact idle attempt started rest here

theorem Borrows.vacant_of_examining {rest : List Attempt} (borrows : run.Borrows name engine)
    (here : run.place = .examining rest) : engine.bank.slot name = none :=
  borrows.vacant (by simp [here])

theorem Borrows.advance (borrows : run.Borrows name engine) (stopped : Bool) :
    (run.advance stopped engine).2.Borrows name (run.advance stopped engine).1 := by
  refine advance_cases stopped engine run ?waiting ?told ?denied ?admitted ?resorted ?ended
  case waiting => exact fun _ => borrows
  case told =>
    intro attempt rest here
    refine borrows_of_vacant ?_ _
    rw [stop, finish, RunProgress.bank_close]
    exact borrows.vacant_of_examining here
  case denied =>
    intro attempt rest asked here answer
    have kept := Bank.slot_allow_of_denied (congrArg Prod.snd answer) name
    obtain rfl : ((run.enter engine).onBank (.allow attempt.provider)).1 = asked :=
      congrArg Prod.fst answer
    refine borrows_of_vacant (kept.trans ?_) _
    rw [bank_enter]
    exact borrows.vacant_of_examining here
  case admitted =>
    intro attempt rest asked here answer
    obtain rfl : ((run.enter engine).onBank (.allow attempt.provider)).1 = asked :=
      congrArg Prod.fst answer
    have entered := bank_enter engine run
    have lends : ((run.enter engine).bank.getOrFresh name).LendsHalfOpen := by
      rw [entered]
      exact borrows.lends
    have becomes := (run.enter engine).bank.getOrFresh_allow attempt.provider
      (run.enter engine).clock.moment name
    by_cases own : attempt.provider = name
    · rw [if_pos own] at becomes
      refine ⟨?_, fun _ => ⟨attempt, _, rest, rfl, own⟩⟩
      exact (congrArg Breaker.LendsHalfOpen becomes).mpr (lends.allow _)
    · rw [if_neg own] at becomes
      have vacant : ((run.enter engine).bank.getOrFresh name).probe = none := by
        rw [entered]
        exact borrows.vacant_of_examining here
      refine borrows_of_vacant ?_ _
      exact (congrArg Breaker.probe becomes).trans vacant
  case resorted =>
    intro best others here _ _
    have vacant : (engine.count .lastResorts).bank.slot name = none :=
      borrows.vacant_of_examining here
    exact borrows_of_vacant vacant _
  case ended =>
    intro here _
    refine borrows_of_vacant ?_ _
    rw [finish, RunProgress.bank_close]
    exact borrows.vacant_of_examining here

/-- Whatever the call in flight comes to, its outcome leaves the slot free. -/
theorem Borrows.vacant_recordOutcome {attempt : Attempt} {lastResort : Bool} {started : Int}
    {rest : List Attempt} (borrows : run.Borrows name engine)
    (here : run.place = .calling attempt lastResort started rest) (succeeded : Bool)
    (latency : Duration) :
    (engine.recordOutcome attempt.provider succeeded latency lastResort).bank.slot name = none := by
  rw [Engine.slot_recordOutcome borrows.lends]
  split
  · rfl
  · rename_i spared
    by_contra held
    obtain ⟨attempt', started', rest', inFlight, own⟩ := borrows.inFlight held
    injection here.symm.trans inFlight with same planned
    exact spared ⟨same ▸ own, planned⟩

theorem Borrows.settle (borrows : run.Borrows name engine) (ending : CallEnd) :
    (run.settle ending engine).2.Borrows name (run.settle ending engine).1 := by
  refine settle_cases ending engine run ?idle ?succeeded ?failed ?cancelled ?dropped
  case idle => exact borrows
  case succeeded =>
    intro attempt lastResort started rest response latency here _
    refine borrows_of_vacant ?_ _
    rw [finish, RunProgress.bank_close]
    exact borrows.vacant_recordOutcome here true latency
  case failed =>
    intro attempt lastResort started rest error latency here _
    exact borrows_of_vacant (borrows.vacant_recordOutcome here false latency) _
  case cancelled =>
    intro attempt lastResort started rest latency here _
    refine borrows_of_vacant ?_ _
    rw [finish, RunProgress.bank_close]
    exact borrows.vacant_recordOutcome here false latency
  case dropped =>
    intro attempt lastResort started rest latency here _
    have vacant := borrows.vacant_recordOutcome here false latency
    refine borrows_of_vacant ?_ _
    exact vacant

/-- Whoever adjusts no more than thresholds and window while a call is in flight leaves the slot
where it is. -/
theorem Borrows.adjusted {called : Engine} (borrows : run.Borrows name engine)
    (spared : (engine.bank.getOrFresh name).Adjusted (called.bank.getOrFresh name)) :
    run.Borrows name called :=
  ⟨spared.lendsHalfOpen borrows.lends, fun held =>
    borrows.inFlight fun vacant => held (spared.probe_eq.trans vacant)⟩

theorem Borrows.vacant_of_ending {ending : RunEnd} (borrows : run.Borrows name engine)
    (ended : run.ending? = some ending) : engine.bank.slot name = none := by
  refine borrows.vacant fun attempt started rest here => ?_
  rw [ending?, here] at ended
  cases ended

end Run

namespace Situation

variable {σ : Type} {caller : Caller σ} {name : String} {first now : Situation σ}

/-- While calls of a run are in flight, nobody does more to the breaker of a provider than to
adjust its thresholds or its window. -/
def Spares (caller : Caller σ) (name : String) (first : Situation σ) : Prop :=
  ∀ now, Leads caller first now → ∀ attempt lastResort started rest,
    now.run.place = .calling attempt lastResort started rest →
      (now.engine.bank.getOrFresh name).Adjusted
        ((caller.call attempt now.state now.engine).engine.bank.getOrFresh name)

theorem spares_of_caller (spares : ∀ attempt state (engine : Engine),
    (engine.bank.getOrFresh name).Adjusted
      ((caller.call attempt state engine).engine.bank.getOrFresh name))
    (first : Situation σ) : Spares caller name first :=
  fun now _ attempt _ _ _ _ => spares attempt now.state now.engine

/-- Each step of a run keeps to what the run may hold. -/
theorem borrows_next (borrows : now.run.Borrows name now.engine)
    (spared : ∀ attempt lastResort started rest,
      now.run.place = .calling attempt lastResort started rest →
        (now.engine.bank.getOrFresh name).Adjusted
          ((caller.call attempt now.state now.engine).engine.bank.getOrFresh name)) :
    (now.next caller).run.Borrows name (now.next caller).engine := by
  unfold next
  split
  · rename_i attempt lastResort started rest here
    exact (borrows.adjusted (spared attempt lastResort started rest here)).settle _
  · exact borrows.advance _

/-- From a free slot on, a run holds the slot during its calls only. -/
theorem Leads.borrows (leads : Leads caller first now) (spares : Spares caller name first)
    (vacant : first.engine.bank.slot name = none) : now.run.Borrows name now.engine := by
  induction leads with
  | refl => exact Run.borrows_of_vacant vacant first.run
  | tail steps step ih =>
      subst step
      exact borrows_next ih (spares _ steps)

end Situation

/-- A failover run that finds the probe slot of a provider free leaves it free, however the run
ends, if nothing else happens to the provider's breaker meanwhile.  So if the breaker is half-open
then, it admits the next call as the probe at once. -/
theorem Engine.slot_law {σ : Type} (caller : Caller σ) (request : PlanRequest) (limit : Nat)
    (state : σ) {engine : Engine} {name : String} (vacant : engine.bank.slot name = none)
    (spares : ∀ drawn plan, engine.plan request = (drawn, .ok plan) →
      let begun := Run.begin request.model plan limit drawn
      Situation.Spares caller name ⟨begun.1, state, begun.2⟩) :
    let after := (engine.failover caller request limit state).1
    after.bank.slot name = none ∧
      (after.bank.phase name = .halfOpen → ∀ moment,
        let asked := after.bank.allow name moment
        asked.granted = true ∧ asked.bank.phase name = .halfOpen ∧
          asked.bank.slot name = some moment.instant) := by
  intro after
  have drawnBank := bank_plan request engine
  have free : after.bank.slot name = none := by
    cases made : engine.plan request with
    | mk drawn answer =>
        rw [made] at drawnBank
        change drawn.bank = engine.bank at drawnBank
        cases answer with
        | error fault =>
            have kept : after = drawn := by
              simp only [after, failover, made]
            rw [kept, drawnBank, vacant]
        | ok plan =>
            obtain ⟨last, ending, leads, ended, result⟩ :=
              Situation.leads_failover caller made limit state
            have kept : after = last.engine := congrArg Prod.fst result
            have began : (Run.begin request.model plan limit drawn).1.bank.slot name = none := by
              rw [← vacant, ← drawnBank]
              rfl
            rw [kept]
            exact (leads.borrows (spares drawn plan made) began).vacant_of_ending ended
  exact ⟨free, fun halfOpen moment => Bank.allow_of_vacant halfOpen free moment⟩

/-- The first provider of a model is still open, so the run skips it.  The second, whose timeout has
passed, answers its probe while another call to the first fails. -/
theorem Engine.slot_law_pair :
    let halfway := Clock.start.advance (Duration.ofSeconds 30)
    let later := (Breaker.fresh .standard).enter .opened halfway.moment
    let opened := (Breaker.fresh .standard).enter .opened Clock.start.moment
    let engine := { Engine.pair "model" "alpha" "beta" with
      clock := Clock.start.advance (Duration.ofSeconds 60)
      bank := ((Bank.ofDefaults .standard).put "alpha" later).put "beta" opened }
    let caller : Caller Unit := ⟨fun _ _ => false, fun _ state engine =>
      ⟨state, (engine.onBank (.record "alpha" false)).1, .succeeded "done"⟩⟩
    let after := (engine.failover caller (.forModel "model") 3 ()).1
    engine.bank.slot "beta" = none ∧ after.bank.slot "beta" = none ∧
      after.bank.phase "beta" = .halfOpen ∧
        (after.bank.allow "beta" after.clock.moment).granted = true ∧
      ⟨"alpha", .rejected⟩ ∈ after.journal := by
  intro halfway later opened engine caller after
  have vacant : engine.bank.slot "beta" = none := rfl
  have elsewhere : (BankOperation.record "alpha" false).on "beta" = none := rfl
  have spares (first : Situation Unit) : Situation.Spares caller "beta" first :=
    Situation.spares_of_caller
      (fun _ _ engine => Bank.adjusted_of_elsewhere elsewhere engine.clock.moment engine.bank) first
  obtain ⟨free, admits⟩ := Engine.slot_law caller (.forModel "model") 3 () vacant
    fun _ _ _ => spares _
  have planned : engine.plan (.forModel "model") = (engine.count .plans, .ok
      [⟨"alpha", "alpha", 0, .opened⟩, ⟨"beta", "beta", 1, .opened⟩]) :=
    Engine.plan_pair_at (by decide) "model" engine.clock engine.bank fun _ => rfl
  have halfOpen : after.bank.phase "beta" = .halfOpen := by
    simp only [after, Engine.failover, planned]
    decide
  have skipped : ⟨"alpha", .rejected⟩ ∈ after.journal := by
    simp only [after, Engine.failover, planned]
    decide
  exact ⟨vacant, free, halfOpen, (admits halfOpen _).1, skipped⟩

end ProviderRouting
