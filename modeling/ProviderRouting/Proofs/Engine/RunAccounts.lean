import ProviderRouting.Proofs.Engine.Books
import ProviderRouting.Proofs.Engine.RunLedger

/-!
# What an engine owes to a run

Every step of a run changes what the engine has counted by what the run has done in it, and by
nothing else.  So whatever others did before the step is still counted after it.
-/

namespace ProviderRouting

/-! ## What a run did -/

/-- Whether an outcome counts as a failure of the provider. -/
def AttemptOutcome.isFailure : AttemptOutcome → Bool
  | succeeded => false
  | failed _ => true
  | skipped => false
  | cancelled => true

namespace Run

/-- Whether the call of a dropped run was to a provider. -/
def droppedOn (provider : String) (run : Run) : Bool :=
  match run.place with
  | .dropped attempt => attempt.provider = provider
  | _ => false

/-- Whether the call in flight is to a provider. -/
def isCalling (provider : String) (run : Run) : Bool :=
  match run.place with
  | .calling attempt _ _ _ => attempt.provider = provider
  | _ => false

/-- The records of a provider whose outcome is of a kind. -/
def recordsOf (provider : String) (kind : AttemptOutcome → Bool) (run : Run) : Nat :=
  run.report.records.countP fun record => record.provider = provider && kind record.outcome

/-- The calls of a provider that succeeded. -/
def successesOf (provider : String) (run : Run) : Nat :=
  run.recordsOf provider fun outcome => outcome = .succeeded

/-- The calls of a provider that failed, were cancelled, or had not ended when the run was
dropped. -/
def failuresOf (provider : String) (run : Run) : Nat :=
  run.recordsOf provider AttemptOutcome.isFailure + (run.droppedOn provider).toNat

/-- The attempts of a provider that the run skipped. -/
def skipsOf (provider : String) (run : Run) : Nat :=
  run.recordsOf provider fun outcome => outcome = .skipped

/-- The calls made to a provider. -/
def callsOf (provider : String) (run : Run) : Nat :=
  run.calls.countP fun call => call.1.provider = provider

/-- Whether the run came to its end with a response. -/
def succeeded (run : Run) : Bool :=
  match run.place with
  | .finished => run.report.success
  | _ => false

/-- Whether the run was cancelled or dropped. -/
def cancelled (run : Run) : Bool :=
  match run.place with
  | .finished => run.report.cancelled
  | .dropped _ => true
  | _ => false

/-- How much of a counter is owed to a run. -/
def share (counter : Counter) (run : Run) : Nat :=
  match counter with
  | .plans => 0
  | .planFailures => 0
  | .runs => 1
  | .runSuccesses => run.succeeded.toNat
  | .fallbacks => run.asks.length - 1
  | .lastResorts => run.calls.countP (·.2)
  | .cancellations => run.cancelled.toNat

/-- The engine has counted for a provider what the run did, besides what others did. -/
def Booked (provider : String) (successes failures skips : Nat) (engine : Engine) (run : Run) :
    Prop :=
  engine.books provider = .balanced (successes + run.successesOf provider)
    (failures + run.failuresOf provider) (skips + run.skipsOf provider)

/-- The engine has counted in its totals what the run did, besides what others did. -/
def Totalled (counter : Counter) (others : Nat) (engine : Engine) (run : Run) : Prop :=
  engine.metrics.totals.get counter = others + run.share counter

/-- The calls of a run to a provider are those that ended and the one in flight. -/
def Counted (provider : String) (run : Run) : Prop :=
  run.callsOf provider = run.successesOf provider + run.failuresOf provider +
    (run.isCalling provider).toNat

/-! ## What a step counts -/

section Steps

variable {provider : String} {successes failures skips others : Nat} {engine asked : Engine}
  {run after : Run} {attempt : Attempt} {rest : List Attempt} {record : AttemptRecord}

theorem recordsOf_append (kind : AttemptOutcome → Bool)
    (records : after.report.records = run.report.records ++ [record]) :
    after.recordsOf provider kind = run.recordsOf provider kind +
      (record.provider = provider && kind record.outcome).toNat := by
  rw [recordsOf, records, List.countP_append, List.countP_singleton]
  cases (record.provider = provider && kind record.outcome : Bool) <;> rfl

theorem successesOf_append (records : after.report.records = run.report.records ++ [record]) :
    after.successesOf provider = run.successesOf provider +
      (record.provider = provider && record.outcome = .succeeded).toNat :=
  recordsOf_append _ records

theorem skipsOf_append (records : after.report.records = run.report.records ++ [record]) :
    after.skipsOf provider = run.skipsOf provider +
      (record.provider = provider && record.outcome = .skipped).toNat :=
  recordsOf_append _ records

theorem failuresOf_append (records : after.report.records = run.report.records ++ [record])
    (kept : after.droppedOn provider = run.droppedOn provider) :
    after.failuresOf provider = run.failuresOf provider +
      (record.provider = provider && record.outcome.isFailure).toNat := by
  rw [failuresOf, failuresOf, recordsOf_append _ records, kept]
  omega

theorem Booked.of_same {later : Engine}
    (booked : run.Booked provider successes failures skips engine)
    (books : later.books provider = engine.books provider)
    (records : after.report.records = run.report.records)
    (dropped : after.droppedOn provider = run.droppedOn provider) :
    after.Booked provider successes failures skips later := by
  rw [Booked, books, booked]
  unfold successesOf failuresOf skipsOf recordsOf
  rw [records, dropped]

theorem Booked.skip (booked : run.Booked provider successes failures skips engine)
    (books : asked.books provider = (engine.books provider).onBreaker 0 0
      (if attempt.provider = provider then 1 else 0))
    (records : after.report.records =
      run.report.records ++ [attempt.record .skipped none false])
    (dropped : after.droppedOn provider = run.droppedOn provider) :
    after.Booked provider successes failures skips asked := by
  rw [Booked, books, booked, ProviderBooks.balanced_onBreaker, successesOf_append records,
    failuresOf_append records dropped, skipsOf_append records]
  by_cases same : attempt.provider = provider <;>
    simp [Attempt.record, AttemptOutcome.isFailure, same, Nat.add_assoc]

theorem Booked.call {outcome : AttemptOutcome} {succeeded : Bool} {latency : Option Duration}
    {taken : Duration} {lastResort : Bool}
    (booked : run.Booked provider successes failures skips engine)
    (success : (outcome = .succeeded : Bool) = succeeded)
    (failure : outcome.isFailure = !succeeded)
    (records : after.report.records =
      run.report.records ++ [attempt.record outcome latency lastResort])
    (dropped : after.droppedOn provider = run.droppedOn provider) :
    after.Booked provider successes failures skips
      (engine.recordOutcome attempt.provider succeeded taken lastResort) := by
  have called : (outcome = .skipped : Bool) = false := by
    cases outcome with
    | skipped =>
        subst success
        exact absurd failure nofun
    | succeeded | failed _ | cancelled => rfl
  rw [Booked, Engine.books_recordOutcome, successesOf_append records,
    failuresOf_append records dropped, skipsOf_append records]
  by_cases same : attempt.provider = provider
  · rw [if_pos same, booked, ProviderBooks.balanced_call]
    simp only [Attempt.record, same, success, failure, called, decide_true, Bool.true_and,
      Bool.toNat_false, Nat.add_zero, Nat.add_assoc]
  · rw [if_neg same, booked]
    simp [Attempt.record, same]

theorem Booked.drop {taken : Duration} {lastResort : Bool}
    (booked : run.Booked provider successes failures skips engine)
    (records : after.report.records = run.report.records)
    (flying : run.droppedOn provider = false)
    (dropped : after.droppedOn provider = decide (attempt.provider = provider)) :
    after.Booked provider successes failures skips
      (engine.recordOutcome attempt.provider false taken lastResort) := by
  unfold Booked successesOf failuresOf skipsOf recordsOf at *
  rw [Engine.books_recordOutcome, records, dropped]
  rw [flying] at booked
  by_cases same : attempt.provider = provider
  · rw [if_pos same, booked, ProviderBooks.balanced_call]
    simp [same, Nat.add_assoc]
  · rw [if_neg same, booked]
    simp [same]

theorem books_close {σ : Type} (progress : RunProgress σ) (provider : String) :
    progress.close.books provider = progress.engine.books provider := by
  unfold RunProgress.close
  split
  · rfl
  · split <;> rfl

theorem books_enter (engine : Engine) (run : Run) (provider : String) :
    (run.enter engine).books provider = engine.books provider := by
  unfold enter
  split <;> rfl

theorem droppedOn_of_examining (here : run.place = .examining rest) :
    run.droppedOn provider = false := by
  rw [droppedOn, here]

theorem droppedOn_of_calling {lastResort : Bool} {started : Int}
    (here : run.place = .calling attempt lastResort started rest) :
    run.droppedOn provider = false := by
  rw [droppedOn, here]

theorem Booked.finish (booked : run.Booked provider successes failures skips engine)
    (here : run.droppedOn provider = false) :
    (run.finish engine).2.Booked provider successes failures skips (run.finish engine).1 :=
  booked.of_same (books_close _ provider) rfl here.symm

theorem Booked.advance (booked : run.Booked provider successes failures skips engine)
    (stopped : Bool) :
    (run.advance stopped engine).2.Booked provider successes failures skips
      (run.advance stopped engine).1 := by
  refine advance_cases stopped engine run ?waiting ?told ?denied ?admitted ?resorted ?ended
  case waiting => exact fun _ => booked
  case told =>
    intro attempt rest here
    exact booked.of_same (books_close _ provider) rfl (droppedOn_of_examining here).symm
  case denied =>
    intro attempt rest asked here answer
    have books := (run.enter engine).books_allow attempt.provider provider
    rw [answer, books_enter] at books
    exact booked.skip books rfl (droppedOn_of_examining here).symm
  case admitted =>
    intro attempt rest asked here answer
    have books := (run.enter engine).books_allow attempt.provider provider
    rw [answer, books_enter, Bool.not_true, Bool.toNat_false, ite_self] at books
    exact booked.of_same books rfl (droppedOn_of_examining here).symm
  case resorted =>
    exact fun best others here _ _ => booked.of_same rfl rfl (droppedOn_of_examining here).symm
  case ended => exact fun here _ => booked.finish (droppedOn_of_examining here)

theorem Booked.settle (booked : run.Booked provider successes failures skips engine)
    (ending : CallEnd) :
    (run.settle ending engine).2.Booked provider successes failures skips
      (run.settle ending engine).1 := by
  refine settle_cases ending engine run booked ?succeeded ?failed ?cancelled ?dropped
  case succeeded =>
    intro attempt lastResort started rest response latency here _
    exact Booked.finish (booked.call rfl rfl rfl rfl) (droppedOn_of_calling here)
  case failed =>
    intro attempt lastResort started rest error latency here _
    exact booked.call rfl rfl rfl (droppedOn_of_calling here).symm
  case cancelled =>
    intro attempt lastResort started rest latency here _
    exact Booked.finish (booked.call rfl rfl rfl rfl) (droppedOn_of_calling here)
  case dropped =>
    intro attempt lastResort started rest latency here _
    exact booked.drop rfl (droppedOn_of_calling here) rfl

/-- The run has not come to an end yet. -/
def Ongoing (run : Run) : Prop :=
  match run.place with
  | .examining _ => True
  | .calling _ _ _ _ => True
  | .finished => False
  | .dropped _ => False

theorem ongoing_of_examining (here : run.place = .examining rest) : run.Ongoing := by
  rw [Ongoing, here]
  trivial

theorem ongoing_of_calling {lastResort : Bool} {started : Int}
    (here : run.place = .calling attempt lastResort started rest) : run.Ongoing := by
  rw [Ongoing, here]
  trivial

theorem Ongoing.succeeded (ongoing : run.Ongoing) : run.succeeded = false := by
  cases here : run.place with
  | examining _ | calling _ _ _ _ | dropped _ => rw [Run.succeeded, here]
  | finished =>
      rw [Ongoing, here] at ongoing
      exact absurd ongoing id

theorem Ongoing.cancelled (ongoing : run.Ongoing) : run.cancelled = false := by
  cases here : run.place with
  | examining _ | calling _ _ _ _ => rw [Run.cancelled, here]
  | finished | dropped _ =>
      rw [Ongoing, here] at ongoing
      exact absurd ongoing id

variable {counter : Counter}

theorem Totalled.of_same {later : Engine} (totalled : run.Totalled counter others engine)
    (totals : later.metrics.totals = engine.metrics.totals)
    (share : after.share counter = run.share counter) : after.Totalled counter others later := by
  rw [Totalled, totals, share]
  exact totalled

theorem Totalled.count {more : Counter} (totalled : run.Totalled counter others engine)
    (share : after.share counter = run.share counter + if more = counter then 1 else 0) :
    after.Totalled counter others (engine.count more) := by
  rw [Totalled, Engine.totals_count, totalled, share, Nat.add_assoc]

/-- Besides what a run asked and called, only its end changes what is owed to it. -/
theorem share_of_ongoing (after : Run) (ongoing : run.Ongoing)
    (asks : after.asks.length = run.asks.length)
    (resorts : after.calls.countP (·.2) = run.calls.countP (·.2)) (counter : Counter) :
    after.share counter = run.share counter +
      ((if Counter.runSuccesses = counter then after.succeeded.toNat else 0) +
        if Counter.cancellations = counter then after.cancelled.toNat else 0) := by
  cases counter <;> simp [share, asks, resorts, ongoing.succeeded, ongoing.cancelled]

theorem share_of_same (after : Run) (before : run.Ongoing) (ongoing : after.Ongoing)
    (asks : after.asks.length = run.asks.length)
    (resorts : after.calls.countP (·.2) = run.calls.countP (·.2)) (counter : Counter) :
    after.share counter = run.share counter := by
  rw [share_of_ongoing after before asks resorts, ongoing.succeeded, ongoing.cancelled]
  simp

/-- The end of a run counts in the totals once. -/
theorem Totalled.finish (totalled : run.Totalled counter others engine) (ongoing : run.Ongoing)
    (single : run.report.cancelled = true → run.report.success = false) :
    (run.finish engine).2.Totalled counter others (run.finish engine).1 := by
  have ended := share_of_ongoing (run.finish engine).2 ongoing rfl rfl counter
  have success_eq : (run.finish engine).2.succeeded = run.report.success := rfl
  have cancelled_eq : (run.finish engine).2.cancelled = run.report.cancelled := rfl
  rw [success_eq, cancelled_eq] at ended
  have closed : (run.finish engine).1 = if run.report.cancelled then engine.count .cancellations
      else if run.report.success then engine.count .runSuccesses else engine := rfl
  rw [closed]
  cases flagged : run.report.cancelled with
  | true =>
      refine totalled.count ?_
      rw [ended, single flagged, flagged]
      simp
  | false =>
      cases success : run.report.success with
      | true =>
          refine totalled.count ?_
          rw [ended, success, flagged]
          simp
      | false =>
          refine totalled.of_same rfl ?_
          rw [ended, success, flagged]
          simp

theorem Totalled.ask (totalled : run.Totalled counter others engine)
    (totals : asked.metrics.totals = (run.enter engine).metrics.totals)
    (asks : after.asks.length = run.asks.length + 1)
    (resorts : after.calls.countP (·.2) = run.calls.countP (·.2)) (before : run.Ongoing)
    (ongoing : after.Ongoing) : after.Totalled counter others asked := by
  cases first : run.asks with
  | nil =>
      have entered : run.enter engine = engine := by
        rw [enter, first]
        rfl
      rw [entered] at totals
      refine totalled.of_same totals ?_
      cases counter <;> simp [share, asks, first, resorts, before.succeeded, before.cancelled,
        ongoing.succeeded, ongoing.cancelled]
  | cons ask earlier =>
      have entered : run.enter engine = engine.count .fallbacks := by
        rw [enter, first]
        rfl
      rw [entered] at totals
      have counted : after.Totalled counter others (engine.count .fallbacks) := by
        refine totalled.count ?_
        cases counter <;> simp [share, asks, first, resorts, before.succeeded,
          before.cancelled, ongoing.succeeded, ongoing.cancelled]
      exact counted.of_same totals rfl

theorem Totalled.resort (totalled : run.Totalled counter others engine) (ongoing : run.Ongoing)
    (best : Attempt) :
    (run.dial best true [] (engine.count .lastResorts)).2.Totalled counter others
      (engine.count .lastResorts) := by
  have asks := dial_asks best true [] (engine.count .lastResorts) run
  have calls := dial_calls best true [] (engine.count .lastResorts) run
  have dialled : (run.dial best true [] (engine.count .lastResorts)).2.Ongoing := trivial
  refine totalled.count ?_
  cases counter <;> simp [share, asks, calls, ongoing.succeeded, ongoing.cancelled,
    dialled.succeeded, dialled.cancelled]

/-- What a run notes last, other than an answer of a breaker or a call, counts with its end. -/
theorem Totalled.finish_of_note {event : RunEvent} {report : RunReport}
    (totalled : run.Totalled counter others engine) (ongoing : run.Ongoing)
    (unasked : event.ask? = none) (uncalled : event.call? = none)
    (single : report.cancelled = true → report.success = false) :
    ({ run.note event with report := report }.finish engine).2.Totalled counter others
      ({ run.note event with report := report }.finish engine).1 := by
  let noted : Run := { run.note event with report := report }
  have asks : noted.asks.length = run.asks.length := by
    change (run.note event).asks.length = _
    rw [note_asks, unasked, Option.toList_none, List.append_nil]
  have resorts : noted.calls.countP (·.2) = run.calls.countP (·.2) := by
    change (run.note event).calls.countP (·.2) = _
    rw [note_calls, uncalled, Option.toList_none, List.append_nil]
  have still : noted.Ongoing := ongoing
  have kept := share_of_same noted ongoing still asks resorts counter
  exact Totalled.finish (totalled.of_same rfl kept) still single

/-- Taking the next attempt counts in the totals what it changes. -/
theorem Totalled.advance (totalled : run.Totalled counter others engine) (standing : run.Standing)
    (stopped : Bool) :
    (run.advance stopped engine).2.Totalled counter others (run.advance stopped engine).1 := by
  have totals (attempt : Attempt) {asked : Engine} {granted : Bool}
      (answer : (run.enter engine).onBank (.allow attempt.provider) = (asked, granted)) :
      asked.metrics.totals = (run.enter engine).metrics.totals := by
    have same := Engine.totals_onBank (.allow attempt.provider) (run.enter engine)
    rwa [answer] at same
  refine advance_cases stopped engine run ?waiting ?told ?denied ?admitted ?resorted ?ended
  case waiting => exact fun _ => totalled
  case told =>
    intro attempt rest here
    refine totalled.finish_of_note (ongoing_of_examining here) rfl rfl fun _ => ?_
    exact congrArg Prod.fst (standing.examining here).undecided.unanswered
  case denied =>
    intro attempt rest asked here answer
    exact totalled.ask (totals attempt answer) (by simp) (by simp) (ongoing_of_examining here)
      trivial
  case admitted =>
    intro attempt rest asked here answer
    exact totalled.ask (totals attempt answer) (by simp) (by simp) (ongoing_of_examining here)
      trivial
  case resorted =>
    exact fun best others here _ _ => totalled.resort (ongoing_of_examining here) best
  case ended =>
    intro here _
    refine totalled.finish (ongoing_of_examining here) fun flagged => ?_
    exact absurd ((standing.examining here).undecided.uncancelled.symm.trans flagged) nofun

/-- The end of a call counts in the totals what it changes. -/
theorem Totalled.settle (totalled : run.Totalled counter others engine) (standing : run.Standing)
    (ending : CallEnd) :
    (run.settle ending engine).2.Totalled counter others (run.settle ending engine).1 := by
  have recorded (attempt : Attempt) (succeeded lastResort : Bool) (latency : Duration) :
      run.Totalled counter others
        (engine.recordOutcome attempt.provider succeeded latency lastResort) :=
    totalled.of_same (Engine.totals_recordOutcome _ _ _ _ _) rfl
  have asks := ended_asks ending run
  have calls := ended_calls ending run
  refine settle_cases ending engine run totalled ?succeeded ?failed ?cancelled ?dropped
  case succeeded =>
    intro attempt lastResort started rest response latency here _
    refine (recorded attempt true lastResort latency).finish_of_note (ongoing_of_calling here)
      rfl rfl fun flagged => ?_
    exact absurd ((standing.calling here).undecided.uncancelled.symm.trans flagged) nofun
  case failed =>
    intro attempt lastResort started rest error latency here _
    exact (recorded attempt false lastResort latency).of_same rfl
      (share_of_same { run.note (.ended ending) with place := .examining rest }
        (ongoing_of_calling here) trivial (congrArg List.length asks)
        (congrArg (List.countP (·.2)) calls) counter)
  case cancelled =>
    intro attempt lastResort started rest latency here _
    refine (recorded attempt false lastResort latency).finish_of_note (ongoing_of_calling here)
      rfl rfl fun _ => ?_
    exact congrArg Prod.fst (standing.calling here).undecided.unanswered
  case dropped =>
    intro attempt lastResort started rest latency here _
    refine (recorded attempt false lastResort latency).count ?_
    have owed := share_of_ongoing { run.note (.ended ending) with place := .dropped attempt }
      (ongoing_of_calling here) (congrArg List.length asks) (congrArg (List.countP (·.2)) calls)
      counter
    refine owed.trans ?_
    simp [Run.succeeded, Run.cancelled]

theorem Counted.of_same (counted : run.Counted provider) (calls : after.calls = run.calls)
    (records : after.report.records = run.report.records)
    (dropped : after.droppedOn provider = run.droppedOn provider)
    (calling : after.isCalling provider = run.isCalling provider) : after.Counted provider := by
  rw [Counted] at counted ⊢
  unfold callsOf successesOf failuresOf recordsOf at *
  rw [calls, records, dropped, calling]
  exact counted

theorem Counted.skip (counted : run.Counted provider) (calls : after.calls = run.calls)
    (records : after.report.records =
      run.report.records ++ [attempt.record .skipped none false])
    (dropped : after.droppedOn provider = run.droppedOn provider)
    (calling : after.isCalling provider = run.isCalling provider) : after.Counted provider := by
  have called : after.callsOf provider = run.callsOf provider := by rw [callsOf, calls, callsOf]
  rw [Counted, called, successesOf_append records, failuresOf_append records dropped, calling,
    counted]
  simp [Attempt.record, AttemptOutcome.isFailure]

theorem Counted.dial {lastResort : Bool} (counted : run.Counted provider)
    (calls : after.calls = run.calls ++ [(attempt, lastResort)])
    (records : after.report.records = run.report.records)
    (dropped : after.droppedOn provider = run.droppedOn provider)
    (idle : run.isCalling provider = false)
    (calling : after.isCalling provider = decide (attempt.provider = provider)) :
    after.Counted provider := by
  have called : after.callsOf provider =
      run.callsOf provider + (decide (attempt.provider = provider)).toNat := by
    rw [callsOf, calls, List.countP_append, List.countP_singleton, callsOf]
    by_cases same : attempt.provider = provider <;> simp [same]
  rw [Counted, called, calling, counted, idle]
  unfold successesOf failuresOf recordsOf
  rw [records, dropped, Bool.toNat_false, Nat.add_zero]

theorem Counted.call {outcome : AttemptOutcome} {latency : Option Duration} {lastResort : Bool}
    (counted : run.Counted provider) (calls : after.calls = run.calls)
    (records : after.report.records =
      run.report.records ++ [attempt.record outcome latency lastResort])
    (wasCalled : outcome.wasCalled = true)
    (dropped : after.droppedOn provider = run.droppedOn provider)
    (calling : run.isCalling provider = decide (attempt.provider = provider))
    (idle : after.isCalling provider = false) : after.Counted provider := by
  have called : after.callsOf provider = run.callsOf provider := by rw [callsOf, calls, callsOf]
  rw [Counted, called, successesOf_append records, failuresOf_append records dropped, idle,
    counted, calling]
  cases outcome with
  | skipped => exact absurd wasCalled nofun
  | succeeded =>
      by_cases same : attempt.provider = provider
      · simp [Attempt.record, AttemptOutcome.isFailure, same]
        omega
      · simp [Attempt.record, same]
  | failed _ | cancelled =>
      by_cases same : attempt.provider = provider
      · simp [Attempt.record, AttemptOutcome.isFailure, same, Nat.add_assoc]
      · simp [Attempt.record, same]

theorem Counted.drop (counted : run.Counted provider) (calls : after.calls = run.calls)
    (records : after.report.records = run.report.records)
    (flying : run.droppedOn provider = false)
    (calling : run.isCalling provider = decide (attempt.provider = provider))
    (dropped : after.droppedOn provider = decide (attempt.provider = provider))
    (idle : after.isCalling provider = false) : after.Counted provider := by
  rw [Counted] at counted ⊢
  unfold callsOf successesOf failuresOf recordsOf at *
  rw [calls, records, dropped, idle, counted, flying, calling, Bool.toNat_false, Nat.add_zero,
    Nat.add_zero, Nat.add_assoc]

theorem isCalling_of_examining (here : run.place = .examining rest) :
    run.isCalling provider = false := by
  rw [isCalling, here]

theorem isCalling_of_calling {lastResort : Bool} {started : Int}
    (here : run.place = .calling attempt lastResort started rest) :
    run.isCalling provider = decide (attempt.provider = provider) := by
  rw [isCalling, here]

theorem Counted.advance (counted : run.Counted provider) (stopped : Bool) (engine : Engine) :
    (run.advance stopped engine).2.Counted provider := by
  refine advance_cases stopped engine run ?waiting ?told ?denied ?admitted ?resorted ?ended
  case waiting => exact fun _ => counted
  case told =>
    intro attempt rest here
    exact counted.of_same (stop_calls engine run) rfl (droppedOn_of_examining here).symm
      (isCalling_of_examining here).symm
  case denied =>
    intro attempt rest asked here _
    exact counted.skip (by simp) rfl (droppedOn_of_examining here).symm
      (isCalling_of_examining here).symm
  case admitted =>
    intro attempt rest asked here _
    have calls := dial_calls attempt false rest asked (run.note (.asked attempt true))
    rw [asked_calls] at calls
    exact counted.dial calls rfl (droppedOn_of_examining here).symm (isCalling_of_examining here)
      rfl
  case resorted =>
    intro best others here _ _
    exact counted.dial (dial_calls best true [] _ run) rfl (droppedOn_of_examining here).symm
      (isCalling_of_examining here) rfl
  case ended =>
    intro here _
    exact counted.of_same rfl rfl (droppedOn_of_examining here).symm
      (isCalling_of_examining here).symm

theorem Counted.settle (counted : run.Counted provider) (ending : CallEnd) (engine : Engine) :
    (run.settle ending engine).2.Counted provider := by
  have calls := ended_calls ending run
  refine settle_cases ending engine run counted ?succeeded ?failed ?cancelled ?dropped
  case succeeded =>
    intro attempt lastResort started rest response latency here _
    exact counted.call calls rfl rfl (droppedOn_of_calling here).symm
      (isCalling_of_calling here) rfl
  case failed =>
    intro attempt lastResort started rest error latency here _
    exact counted.call calls rfl rfl (droppedOn_of_calling here).symm
      (isCalling_of_calling here) rfl
  case cancelled =>
    intro attempt lastResort started rest latency here _
    exact counted.call calls rfl rfl (droppedOn_of_calling here).symm
      (isCalling_of_calling here) rfl
  case dropped =>
    intro attempt lastResort started rest latency here _
    exact counted.drop calls rfl (droppedOn_of_calling here) (isCalling_of_calling here) rfl rfl

end Steps

end Run

end ProviderRouting
