import Mathlib.Data.List.Forall2
import ProviderRouting.Proofs.Engine.RunSteps

/-!
# The records of a failover run

A run keeps one record for every breaker it asked, in the order of the plan, and perhaps one more
for a call of last resort.  An invariant ties the records to the breakers asked and the providers
called; every step keeps it, whatever happens to the engine in between.
-/

namespace ProviderRouting

/-! ## Records -/

/-- The record of an attempt. -/
def Attempt.record (attempt : Attempt) (outcome : AttemptOutcome) (latency : Option Duration)
    (lastResort : Bool) : AttemptRecord :=
  ⟨attempt.provider, attempt.providerModel, attempt.rank, outcome, latency, lastResort⟩

namespace AttemptOutcome

/-- Whether an outcome ends the run. -/
def IsFinal (outcome : AttemptOutcome) : Prop := outcome = .succeeded ∨ outcome = .cancelled

theorem wasCalled_iff (outcome : AttemptOutcome) :
    outcome.wasCalled = true ↔ outcome ≠ .skipped := by
  cases outcome <;> simp [wasCalled]

end AttemptOutcome

namespace AttemptRecord

/-- The record is about an attempt. -/
def Names (record : AttemptRecord) (attempt : Attempt) : Prop :=
  record.provider = attempt.provider ∧ record.providerModel = attempt.providerModel ∧
    record.rank = attempt.rank

/-- The record is a planned one of an attempt whose breaker was asked; it is skipped exactly when
the breaker denied it. -/
structure Answers (record : AttemptRecord) (ask : Attempt × Bool) : Prop where
  /-- The record is about the attempt. -/
  names : record.Names ask.1
  /-- It is a planned record. -/
  planned : record.lastResort = false
  /-- It is skipped exactly when the breaker denied the attempt. -/
  skipped : record.outcome = .skipped ↔ ask.2 = false

/-- The record is of a call of an attempt, and a record of last resort when the call is. -/
structure Tells (record : AttemptRecord) (call : Attempt × Bool) : Prop where
  /-- The record is about the attempt. -/
  names : record.Names call.1
  /-- It is one of last resort when the call is. -/
  lastResort : record.lastResort = call.2

end AttemptRecord

theorem map_eq_map {α β γ : Type} {relation : α → β → Prop} {left : α → γ} {right : β → γ}
    (agree : ∀ a b, relation a b → left a = right b) {as : List α} {bs : List β}
    (related : List.Forall₂ relation as bs) : as.map left = bs.map right := by
  induction related with
  | nil => rfl
  | cons head _ ih => rw [List.map_cons, List.map_cons, agree _ _ head, ih]

theorem exists_related {α β : Type} {relation : α → β → Prop} {as : List α} {bs : List β}
    (related : List.Forall₂ relation as bs) {a : α} (member : a ∈ as) : ∃ b ∈ bs, relation a b := by
  induction related with
  | nil => exact absurd member List.not_mem_nil
  | cons head _ ih =>
      rcases List.mem_cons.1 member with rfl | later
      · exact ⟨_, List.mem_cons_self, head⟩
      · obtain ⟨b, among, holds⟩ := ih later
        exact ⟨b, List.mem_cons_of_mem _ among, holds⟩

/-- What a report says of a response: whether there is one, what it is and who gave it. -/
def RunReport.reply (report : RunReport) : Bool × Option String × Option String :=
  (report.success, report.response, report.providerUsed)

namespace Run

/-! ## What a run keeps -/

/-- The record of the call of last resort of a run. -/
structure LastResort (run : Run) (record : AttemptRecord) : Prop where
  /-- It is marked as one. -/
  marked : record.lastResort = true
  /-- It is about the best attempt, whose call is the only one of the run. -/
  best : ∃ best, run.examined.head? = some best ∧ record.Names best ∧ run.calls = [(best, true)]
  /-- The breakers of all examined attempts were asked. -/
  through : run.asks.map (·.1) = run.examined
  /-- All of them denied. -/
  denied : ∀ ask ∈ run.asks, ask.2 = false

/-- What ties the records of a run to the breakers it asked and the providers it called, while it
has still to examine some attempts. -/
structure Ledger (planned : List AttemptRecord) (resort : Option AttemptRecord)
    (rest : List Attempt) (run : Run) : Prop where
  /-- There is something to examine. -/
  nonempty : run.examined ≠ []
  /-- The breakers were asked in the order of the attempts. -/
  path : run.asks.map (·.1) ++ rest = run.examined
  /-- The planned records come first. -/
  records : run.report.records = planned ++ resort.toList
  /-- Every breaker asked has its record. -/
  recorded : List.Forall₂ AttemptRecord.Answers planned run.asks
  /-- Every call has its record. -/
  called : List.Forall₂ AttemptRecord.Tells
    (run.report.records.filter (·.outcome.wasCalled)) run.calls
  /-- The records of calls are counted. -/
  tried : run.report.tried = run.report.records.countP (·.outcome.wasCalled)
  /-- A last resort comes after all attempts. -/
  resort : ∀ record ∈ resort, run.LastResort record

/-- A run that nothing has ended so far. -/
structure Undecided (run : Run) : Prop where
  /-- It has no response. -/
  unanswered : run.report.reply = (false, none, none)
  /-- It is not cancelled. -/
  uncancelled : run.report.cancelled = false
  /-- It did not notice that it was told to stop. -/
  unstopped : RunEvent.stopped ∉ run.events
  /-- No outcome ended it. -/
  records : ∀ record ∈ run.report.records, ¬record.outcome.IsFinal

/-- A run that ended because it was told to stop before it asked the next breaker. -/
structure Stopped (run : Run) : Prop where
  /-- It has no response. -/
  unanswered : run.report.reply = (false, none, none)
  /-- It is cancelled. -/
  cancelled : run.report.cancelled = true
  /-- It noticed that it was told to stop. -/
  stopped : RunEvent.stopped ∈ run.events
  /-- No outcome ended it. -/
  records : ∀ record ∈ run.report.records, ¬record.outcome.IsFinal

/-- A run that ended with its last record. -/
structure Decided (run : Run) : Prop where
  /-- It did not notice that it was told to stop before. -/
  unstopped : RunEvent.stopped ∉ run.events
  /-- The last record ended it, and no other. -/
  last : ∃ others last, run.report.records = others ++ [last] ∧
    (∀ record ∈ others, ¬record.outcome.IsFinal) ∧
    ((last.outcome = .succeeded ∧ run.report.cancelled = false ∧
        ∃ response, run.report.reply = (true, some response, some last.provider) ∧
          RunEvent.ended (.succeeded response) ∈ run.events) ∨
      (last.outcome = .cancelled ∧ run.report.cancelled = true ∧
        run.report.reply = (false, none, none)))

theorem Undecided.records_push {run : Run} {attempt : Attempt} {outcome : AttemptOutcome}
    {latency : Option Duration} {lastResort : Bool} (undecided : run.Undecided)
    (goesOn : ¬outcome.IsFinal) :
    ∀ record ∈ (RunProgress.push attempt outcome latency lastResort run.report).records,
      ¬record.outcome.IsFinal := by
  intro record member
  rcases List.mem_append.1 member with earlier | last
  · exact undecided.records record earlier
  · obtain rfl := List.mem_singleton.1 last
    exact goesOn

/-! ## How the ledger grows -/

section Ledger

variable {planned : List AttemptRecord} {resort : Option AttemptRecord} {attempt : Attempt}
  {rest : List Attempt} {before after : Run} {outcome : AttemptOutcome}
  {latency : Option Duration}

theorem Ledger.of_same (ledger : before.Ledger planned resort rest)
    (examined : after.examined = before.examined) (asks : after.asks = before.asks)
    (calls : after.calls = before.calls)
    (records : after.report.records = before.report.records)
    (tried : after.report.tried = before.report.tried) : after.Ledger planned resort rest := by
  obtain ⟨nonempty, path, listed, recorded, called, counted, resort⟩ := ledger
  refine ⟨?_, ?_, ?_, ?_, ?_, ?_, fun record member => ?_⟩
  · rwa [examined]
  · rwa [asks, examined]
  · rwa [records]
  · rwa [asks]
  · rwa [records, calls]
  · rwa [records, tried]
  · obtain ⟨marked, best, through, denied⟩ := resort record member
    refine ⟨marked, ?_, ?_, ?_⟩
    · rwa [examined, calls]
    · rwa [asks, examined]
    · rwa [asks]

theorem Ledger.unresorted (ledger : before.Ledger planned resort (attempt :: rest)) :
    resort = none := by
  cases resort with
  | none => rfl
  | some record =>
      have path := ledger.path
      rw [(ledger.resort record rfl).through] at path
      exact absurd (List.append_right_eq_self.1 path) (List.cons_ne_nil _ _)

/-- The record of a call is listed with it. -/
theorem Ledger.called_append {lastResort : Bool} (ledger : before.Ledger planned resort rest)
    (wasCalled : outcome.wasCalled = true)
    (calls : after.calls = before.calls ++ [(attempt, lastResort)])
    (records : after.report.records =
      before.report.records ++ [attempt.record outcome latency lastResort]) :
    List.Forall₂ AttemptRecord.Tells (after.report.records.filter (·.outcome.wasCalled))
      after.calls := by
  have listed : [attempt.record outcome latency lastResort].filter (·.outcome.wasCalled) =
      [attempt.record outcome latency lastResort] := List.filter_eq_self.2 (by
    simpa [Attempt.record] using wasCalled)
  rw [records, calls, List.filter_append, listed]
  exact List.rel_append ledger.called (.cons ⟨⟨rfl, rfl, rfl⟩, rfl⟩ .nil)

theorem Ledger.tried_append {lastResort : Bool} (ledger : before.Ledger planned resort rest)
    (wasCalled : outcome.wasCalled = true)
    (records : after.report.records =
      before.report.records ++ [attempt.record outcome latency lastResort])
    (tried : after.report.tried = before.report.tried + 1) :
    after.report.tried = after.report.records.countP (·.outcome.wasCalled) := by
  have counted : [attempt.record outcome latency lastResort].countP (·.outcome.wasCalled) = 1 :=
    List.countP_eq_length.2 (by simpa [Attempt.record] using wasCalled)
  rw [records, tried, ledger.tried, List.countP_append, counted]

/-- An attempt whose breaker was asked leaves a planned record. -/
theorem Ledger.ask {admitted : Bool} (ledger : before.Ledger planned none (attempt :: rest))
    (examined : after.examined = before.examined)
    (asks : after.asks = before.asks ++ [(attempt, admitted)])
    (records : after.report.records =
      before.report.records ++ [attempt.record outcome latency false])
    (skipped : outcome = .skipped ↔ admitted = false)
    (called : List.Forall₂ AttemptRecord.Tells
      (after.report.records.filter (·.outcome.wasCalled)) after.calls)
    (tried : after.report.tried = after.report.records.countP (·.outcome.wasCalled)) :
    after.Ledger (planned ++ [attempt.record outcome latency false]) none rest where
  nonempty := by
    rw [examined]
    exact ledger.nonempty
  path := by
    rw [asks, examined, ← ledger.path]
    simp
  records := by
    rw [records, ledger.records]
    simp
  recorded := by
    rw [asks]
    exact List.rel_append ledger.recorded (.cons ⟨⟨rfl, rfl, rfl⟩, rfl, skipped⟩ .nil)
  called := called
  tried := tried
  resort := by
    simp

theorem Ledger.skip (ledger : before.Ledger planned none (attempt :: rest))
    (examined : after.examined = before.examined)
    (asks : after.asks = before.asks ++ [(attempt, false)]) (calls : after.calls = before.calls)
    (records : after.report.records =
      before.report.records ++ [attempt.record .skipped none false])
    (tried : after.report.tried = before.report.tried) :
    after.Ledger (planned ++ [attempt.record .skipped none false]) none rest := by
  refine ledger.ask examined asks records (by simp) ?_ ?_
  · have uncalled : [attempt.record .skipped none false].filter (·.outcome.wasCalled) = [] := rfl
    rw [records, calls, List.filter_append, uncalled, List.append_nil]
    exact ledger.called
  · rw [records, tried, ledger.tried, List.countP_append]
    rfl

theorem Ledger.call (ledger : before.Ledger planned none (attempt :: rest))
    (wasCalled : outcome.wasCalled = true) (examined : after.examined = before.examined)
    (asks : after.asks = before.asks ++ [(attempt, true)])
    (calls : after.calls = before.calls ++ [(attempt, false)])
    (records : after.report.records =
      before.report.records ++ [attempt.record outcome latency false])
    (tried : after.report.tried = before.report.tried + 1) :
    after.Ledger (planned ++ [attempt.record outcome latency false]) none rest := by
  refine ledger.ask examined asks records ?_ (ledger.called_append wasCalled calls records)
    (ledger.tried_append wasCalled records tried)
  simpa using outcome.wasCalled_iff.1 wasCalled

theorem Ledger.calls_eq_nil (ledger : before.Ledger planned resort rest)
    (untried : before.report.tried = 0) : before.calls = [] := by
  have called := ledger.called
  rw [ledger.tried, List.countP_eq_length_filter, List.length_eq_zero_iff] at untried
  rw [untried] at called
  exact List.forall₂_nil_left_iff.1 called

theorem Ledger.denied (ledger : before.Ledger planned resort rest)
    (skipped : ∀ record ∈ planned, record.outcome = .skipped) :
    ∀ ask ∈ before.asks, ask.2 = false := by
  intro ask member
  obtain ⟨record, among, answers⟩ := exists_related ledger.recorded.flip member
  exact answers.skipped.1 (skipped record among)

theorem Ledger.skipped (ledger : before.Ledger planned resort rest)
    (denied : ∀ ask ∈ before.asks, ask.2 = false) :
    ∀ record ∈ planned, record.outcome = .skipped := by
  intro record member
  obtain ⟨ask, among, answers⟩ := exists_related ledger.recorded member
  exact answers.skipped.2 (denied ask among)

theorem Ledger.resorted (ledger : before.Ledger planned none []) (untried : before.report.tried = 0)
    (best : before.examined.head? = some attempt) (wasCalled : outcome.wasCalled = true)
    (examined : after.examined = before.examined) (asks : after.asks = before.asks)
    (calls : after.calls = before.calls ++ [(attempt, true)])
    (records : after.report.records =
      before.report.records ++ [attempt.record outcome latency true])
    (tried : after.report.tried = before.report.tried + 1) :
    after.Ledger planned (some (attempt.record outcome latency true)) [] where
  nonempty := by
    rw [examined]
    exact ledger.nonempty
  path := by
    rw [asks, examined]
    exact ledger.path
  records := by
    rw [records, ledger.records]
    simp
  recorded := by
    rw [asks]
    exact ledger.recorded
  called := ledger.called_append wasCalled calls records
  tried := ledger.tried_append wasCalled records tried
  resort := by
    rintro record ⟨⟩
    refine ⟨rfl, ⟨attempt, by rw [examined, best], ⟨rfl, rfl, rfl⟩, ?_⟩, ?_, ?_⟩
    · rw [calls, ledger.calls_eq_nil untried, List.nil_append]
    · rw [asks, examined, ← ledger.path, List.append_nil]
    · rw [asks]
      refine ledger.denied fun record member => ?_
      rw [ledger.tried, List.countP_eq_zero] at untried
      have uncalled := untried record (by simp [ledger.records, member])
      by_contra called
      exact uncalled (record.outcome.wasCalled_iff.2 called)

/-- The records that are not of last resort are those of the breakers asked. -/
theorem Ledger.asks_length (ledger : before.Ledger planned resort rest) :
    before.asks.length = before.report.records.countP (!·.lastResort) := by
  have first : planned.countP (!·.lastResort) = planned.length := by
    refine List.countP_eq_length.2 fun record member => ?_
    obtain ⟨ask, -, answers⟩ := exists_related ledger.recorded member
    rw [answers.planned]
    rfl
  have last : resort.toList.countP (!·.lastResort) = 0 := by
    refine List.countP_eq_zero.2 fun record member => ?_
    rw [(ledger.resort record (Option.mem_toList.1 member)).marked]
    exact nofun
  rw [ledger.records, List.countP_append, first, last, ledger.recorded.length_eq]
  rfl

end Ledger

/-! ## The invariant -/

/-- A run with attempts still to be examined, tied to its records. -/
structure Examining (rest : List Attempt) (run : Run) : Prop where
  /-- Nothing ended it so far. -/
  undecided : run.Undecided
  /-- Its records fit. -/
  ledger : ∃ planned resort, run.Ledger planned resort rest

/-- Why a run came to its end, with some attempts left unexamined. -/
inductive Verdict (rest : List Attempt) (run : Run) : Prop where
  /-- It was told to stop before the next attempt. -/
  | stopped (stopped : run.Stopped) (left : rest ≠ [])
  /-- Its last record ended it. -/
  | decided (decided : run.Decided)
  /-- All its calls failed. -/
  | exhausted (undecided : run.Undecided) (left : rest = []) (tried : run.report.tried ≠ 0)

/-- A run that came to its end, tied to its records. -/
structure Settled (run : Run) : Prop where
  /-- Its records fit. -/
  ledger : ∃ planned resort rest, run.Ledger planned resort rest ∧ run.Verdict rest

/-- A run with a call in flight, tied to its records once that of the call is added. -/
structure Calling (attempt : Attempt) (lastResort : Bool) (rest : List Attempt) (run : Run) :
    Prop where
  /-- Nothing ended it so far. -/
  undecided : run.Undecided
  /-- Its records will fit, however the call ends. -/
  ledger : ∀ outcome latency, outcome.wasCalled = true → ∃ planned resort,
    Ledger planned resort rest
      { run with report := RunProgress.pushCall attempt outcome latency lastResort run.report }

/-- What every run keeps, wherever it stands. -/
def Standing (run : Run) : Prop :=
  match run.place with
  | .examining rest => run.Examining rest
  | .calling attempt lastResort _ rest => run.Calling attempt lastResort rest
  | .finished => run.Settled
  | .dropped _ => RunEvent.ended .dropped ∈ run.events

variable {run : Run} {attempt : Attempt} {rest : List Attempt} {engine : Engine}

theorem standing_begin (model : String) {plan : List Attempt} (planned : plan ≠ []) (limit : Nat)
    (engine : Engine) : (begin model plan limit engine).2.Standing := by
  refine ⟨⟨rfl, rfl, List.not_mem_nil, by simp [begin, RunReport.empty]⟩, [], none, ?_⟩
  refine ⟨?_, rfl, rfl, .nil, .nil, rfl, by simp⟩
  have positive : max limit 1 ≠ 0 := by omega
  exact fun none => (List.take_eq_nil_iff.1 none).elim positive planned

theorem standing_stop (examining : run.Examining (attempt :: rest)) :
    (run.stop engine).2.Standing := by
  obtain ⟨undecided, planned, resort, ledger⟩ := examining
  refine ⟨planned, resort, attempt :: rest,
    ledger.of_same rfl (stop_asks engine run) (stop_calls engine run) rfl rfl,
    .stopped ⟨undecided.unanswered, rfl, ?_, undecided.records⟩ (List.cons_ne_nil _ _)⟩
  simp [stop, finish]

theorem standing_skip (examining : run.Examining (attempt :: rest)) (asked : Engine) :
    ((run.note (.asked attempt false)).skip attempt rest asked).2.Standing := by
  obtain ⟨undecided, planned, resort, ledger⟩ := examining
  obtain rfl := ledger.unresorted
  refine ⟨⟨undecided.unanswered, undecided.uncancelled, ?_, ?_⟩, _, none,
    ledger.skip rfl (by simp) (by simp) rfl rfl⟩
  · simpa [skip] using undecided.unstopped
  · exact undecided.records_push (by simp [AttemptOutcome.IsFinal])

theorem standing_finish (examining : run.Examining []) (tried : run.report.tried ≠ 0) :
    (run.finish engine).2.Standing := by
  obtain ⟨undecided, planned, resort, ledger⟩ := examining
  refine ⟨planned, resort, [], ledger.of_same rfl rfl rfl rfl rfl, .exhausted ?_ rfl tried⟩
  exact ⟨undecided.unanswered, undecided.uncancelled, undecided.unstopped, undecided.records⟩

theorem standing_dial (examining : run.Examining (attempt :: rest)) (asked : Engine) :
    ((run.note (.asked attempt true)).dial attempt false rest asked).2.Standing := by
  obtain ⟨undecided, planned, resort, ledger⟩ := examining
  obtain rfl := ledger.unresorted
  refine ⟨⟨undecided.unanswered, undecided.uncancelled, ?_, undecided.records⟩,
    fun outcome latency wasCalled => ⟨_, none, ledger.call wasCalled rfl ?_ ?_ rfl rfl⟩⟩
  · simpa [dial] using undecided.unstopped
  · exact (dial_asks _ _ rest asked _).trans (asked_asks _ _ run)
  · exact (dial_calls _ _ rest asked _).trans (by rw [asked_calls])

theorem standing_resort (examining : run.Examining []) (untried : run.report.tried = 0)
    (best : run.examined.head? = some attempt) :
    (run.dial attempt true [] engine).2.Standing := by
  obtain ⟨undecided, planned, resort, ledger⟩ := examining
  have unresorted : resort = none := by
    refine Option.eq_none_iff_forall_not_mem.2 fun record member => ?_
    obtain ⟨best, -, -, calls⟩ := (ledger.resort record member).best
    simp [ledger.calls_eq_nil untried] at calls
  subst unresorted
  refine ⟨⟨undecided.unanswered, undecided.uncancelled, ?_, undecided.records⟩,
    fun outcome latency wasCalled => ⟨planned, _,
      ledger.resorted untried best wasCalled rfl (dial_asks _ _ [] engine run)
        (dial_calls _ _ [] engine run) rfl rfl⟩⟩
  simpa [dial] using undecided.unstopped

theorem Standing.examining (standing : run.Standing) (here : run.place = .examining rest) :
    run.Examining rest := by
  rwa [Standing, here] at standing

theorem Standing.calling {lastResort : Bool} {started : Int} (standing : run.Standing)
    (here : run.place = .calling attempt lastResort started rest) :
    run.Calling attempt lastResort rest := by
  rwa [Standing, here] at standing

/-- Taking the next attempt keeps the invariant. -/
theorem standing_advance (standing : run.Standing) (stopped : Bool) :
    (run.advance stopped engine).2.Standing := by
  refine advance_cases stopped engine run ?waiting ?told ?denied ?admitted ?resorted ?ended
  case waiting => exact fun _ => standing
  case told => exact fun attempt rest here => standing_stop (standing.examining here)
  case denied =>
    exact fun attempt rest asked here _ => standing_skip (standing.examining here) asked
  case admitted =>
    exact fun attempt rest asked here _ => standing_dial (standing.examining here) asked
  case resorted =>
    intro best others here candidates untried
    exact standing_resort (standing.examining here) untried (by rw [candidates]; rfl)
  case ended =>
    intro here unexamined
    obtain ⟨undecided, planned, resort, ledger⟩ := standing.examining here
    refine standing_finish (standing.examining here) fun untried => ?_
    exact ledger.nonempty (unexamined untried undecided.uncancelled)

/-- The end of a call keeps the invariant. -/
theorem standing_settle (standing : run.Standing) (ending : CallEnd) :
    (run.settle ending engine).2.Standing := by
  have asks_eq := ended_asks ending run
  have calls_eq := ended_calls ending run
  have unstopped (unstopped : RunEvent.stopped ∉ run.events) :
      RunEvent.stopped ∉ (run.note (.ended ending)).events := by
    simpa using unstopped
  refine settle_cases ending engine run standing ?succeeded ?failed ?cancelled ?dropped
  case succeeded =>
    intro attempt lastResort started rest response latency here ended
    obtain ⟨undecided, ledger⟩ := standing.calling here
    obtain ⟨planned, resort, fits⟩ := ledger .succeeded latency rfl
    refine ⟨planned, resort, rest, fits.of_same rfl asks_eq calls_eq rfl rfl,
      .decided ⟨unstopped undecided.unstopped, _, _, rfl, undecided.records,
        .inl ⟨rfl, undecided.uncancelled, response, rfl, ?_⟩⟩⟩
    simp [finish, ended]
  case failed =>
    intro attempt lastResort started rest error latency here ended
    obtain ⟨undecided, ledger⟩ := standing.calling here
    obtain ⟨planned, resort, fits⟩ := ledger (.failed error) latency rfl
    refine ⟨⟨undecided.unanswered, undecided.uncancelled, unstopped undecided.unstopped, ?_⟩,
      planned, resort, fits.of_same rfl asks_eq calls_eq rfl rfl⟩
    exact undecided.records_push (by simp [AttemptOutcome.IsFinal])
  case cancelled =>
    intro attempt lastResort started rest latency here ended
    obtain ⟨undecided, ledger⟩ := standing.calling here
    obtain ⟨planned, resort, fits⟩ := ledger .cancelled latency rfl
    exact ⟨planned, resort, rest, fits.of_same rfl asks_eq calls_eq rfl rfl,
      .decided ⟨unstopped undecided.unstopped, _, _, rfl, undecided.records,
        .inr ⟨rfl, rfl, undecided.unanswered⟩⟩⟩
  case dropped =>
    rintro attempt lastResort started rest latency here rfl
    exact List.mem_append_right _ (List.mem_singleton.2 rfl)

theorem advance_examined (stopped : Bool) (engine : Engine) (run : Run) :
    (run.advance stopped engine).2.examined = run.examined := by
  refine advance_cases stopped engine run ?_ ?_ ?_ ?_ ?_ ?_ <;> intros <;> rfl

theorem settle_examined (ending : CallEnd) (engine : Engine) (run : Run) :
    (run.settle ending engine).2.examined = run.examined := by
  refine settle_cases ending engine run rfl ?_ ?_ ?_ ?_ <;> intros <;> rfl

end Run

namespace Situation

variable {σ : Type} {caller : Caller σ} {before after : Situation σ}

theorem next_standing (standing : before.run.Standing) :
    (before.next caller).run.Standing := by
  unfold next
  split
  · exact Run.standing_settle standing _
  · exact Run.standing_advance standing _

theorem next_examined : (before.next caller).run.examined = before.run.examined := by
  unfold next
  split
  · exact Run.settle_examined _ _ _
  · exact Run.advance_examined _ _ _

theorem Leads.standing (leads : Leads caller before after) (standing : before.run.Standing) :
    after.run.Standing := by
  induction leads with
  | refl => exact standing
  | tail _ step ih =>
      rw [step]
      exact next_standing ih

theorem Leads.examined (leads : Leads caller before after) :
    after.run.examined = before.run.examined := by
  induction leads with
  | refl => rfl
  | tail _ step ih => rw [step, next_examined, ih]

end Situation

/-! ## Runs of a plan -/

theorem Candidate.rank_ne_nil {candidates : List Candidate} (some : candidates ≠ []) :
    Candidate.rank candidates ≠ [] := by
  have length_eq : (Candidate.rank candidates).length = candidates.length :=
    List.length_mergeSort candidates
  exact fun none => some (List.length_eq_zero_iff.1 (length_eq.symm.trans (by rw [none]; rfl)))

theorem Candidate.pin_ne_nil {candidates : List Candidate} (some : candidates ≠ [])
    (test : Candidate → Bool) : Candidate.pin test candidates ≠ [] := by
  unfold Candidate.pin
  split
  · exact List.cons_ne_nil _ _
  · exact some

theorem PlanningView.number_ne_nil {candidates : List Candidate} (some : candidates ≠ [])
    (rank : Nat) : PlanningView.number rank candidates ≠ [] := by
  cases candidates with
  | nil => exact absurd rfl some
  | cons candidate rest => exact List.cons_ne_nil _ _

theorem Engine.bank_plan (request : PlanRequest) (engine : Engine) :
    (engine.plan request).1.bank = engine.bank := by
  rw [plan]
  split <;> rfl

theorem Engine.journal_plan (request : PlanRequest) (engine : Engine) :
    (engine.plan request).1.journal = engine.journal := by
  rw [plan]
  split <;> rfl

theorem Engine.plan_ne_nil {engine planned : Engine} {request : PlanRequest} {plan : List Attempt}
    (made : engine.plan request = (planned, .ok plan)) : plan ≠ [] := by
  have drawn : engine.planningView.plan request = .ok plan := by
    unfold Engine.plan at made
    split at made
    · rename_i attempts drawn
      obtain ⟨-, same⟩ := Prod.mk.inj made
      rw [drawn, same]
    · exact absurd (Prod.mk.inj made).2 nofun
  unfold PlanningView.plan at drawn
  split at drawn
  · exact absurd drawn nofun
  · dsimp only at drawn
    split at drawn
    · exact absurd drawn nofun
    · rename_i some
      obtain rfl := Except.ok.inj drawn
      refine PlanningView.number_ne_nil (Candidate.pin_ne_nil (Candidate.rank_ne_nil ?_) _) _
      simpa using some

end ProviderRouting
