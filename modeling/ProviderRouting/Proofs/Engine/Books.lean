import ProviderRouting.Engine.Failover
import ProviderRouting.Proofs.Breaker.Counting

/-!
# The books of an engine

Three stores of an engine count the calls to a provider: its breaker, the health statistics and the
metrics with their latencies.  Every operation of a run counts in all of them alike.
-/

namespace ProviderRouting

/-- What the stores of an engine have counted for one provider. -/
structure ProviderBooks where
  /-- Successes in the totals of the breaker. -/
  breakerSuccesses : Nat
  /-- Failures in the totals of the breaker. -/
  breakerFailures : Nat
  /-- Calls that the breaker rejected. -/
  breakerRejections : Nat
  /-- Samples of the health statistics. -/
  samples : Nat
  /-- Successful samples. -/
  healthSuccesses : Nat
  /-- Failed samples. -/
  healthFailures : Nat
  /-- Calls in the metrics. -/
  calls : Nat
  /-- Successful calls in the metrics. -/
  successes : Nat
  /-- Failed calls in the metrics. -/
  failures : Nat
  /-- Rejected calls in the metrics. -/
  rejections : Nat
  /-- Whether the latencies have buckets, without which they are not counted. -/
  measured : Bool
  /-- Latencies in the metrics. -/
  latencies : Nat
deriving DecidableEq

namespace ProviderBooks

/-- Books in which all stores have counted the same. -/
def balanced (successes failures rejections : Nat) : ProviderBooks where
  breakerSuccesses := successes
  breakerFailures := failures
  breakerRejections := rejections
  samples := successes + failures
  healthSuccesses := successes
  healthFailures := failures
  calls := successes + failures
  successes := successes
  failures := failures
  rejections := rejections
  measured := true
  latencies := successes + failures

/-- Count with the breaker, and what it reports with the metrics. -/
def onBreaker (successes failures rejections : Nat) (books : ProviderBooks) : ProviderBooks :=
  { books with
    breakerSuccesses := books.breakerSuccesses + successes
    breakerFailures := books.breakerFailures + failures
    breakerRejections := books.breakerRejections + rejections
    rejections := books.rejections + rejections }

/-- Count a call with the health statistics. -/
def onHealth (succeeded : Bool) (books : ProviderBooks) : ProviderBooks :=
  { books with
    samples := books.samples + 1
    healthSuccesses := books.healthSuccesses + succeeded.toNat
    healthFailures := books.healthFailures + (!succeeded).toNat }

/-- Count a call with the metrics. -/
def onMetrics (succeeded : Bool) (books : ProviderBooks) : ProviderBooks :=
  { books with
    calls := books.calls + 1
    successes := books.successes + succeeded.toNat
    failures := books.failures + (!succeeded).toNat
    latencies := books.latencies + books.measured.toNat }

theorem balanced_onBreaker (successes failures rejections more : Nat) :
    (balanced successes failures rejections).onBreaker 0 0 more =
      balanced successes failures (rejections + more) := rfl

theorem balanced_call (successes failures rejections : Nat) (succeeded : Bool) :
    (((balanced successes failures rejections).onBreaker succeeded.toNat (!succeeded).toNat
        0).onHealth succeeded).onMetrics succeeded =
      balanced (successes + succeeded.toNat) (failures + (!succeeded).toNat) rejections := by
  cases succeeded <;> simp [balanced, onBreaker, onHealth, onMetrics] <;> omega

end ProviderBooks

/-! ## Metrics and health statistics -/

theorem Metrics.provider_update (metrics : Metrics) (name provider : String)
    (change : ProviderMetrics → ProviderMetrics) :
    (metrics.update name change).provider provider =
      if name = provider then change (metrics.provider provider)
      else metrics.provider provider := by
  unfold Metrics.provider update
  rw [Table.get?_insert]
  by_cases same : name = provider
  · subst same
    rw [if_pos rfl, if_pos rfl]
    rfl
  · rw [if_neg same, if_neg same]

namespace ProviderMetrics

/-- From some counts to others only so many rejections were counted, and changes of phase. -/
structure Sees (before : ProviderMetrics) (rejected : Nat) (after : ProviderMetrics) : Prop where
  /-- No call was counted. -/
  calls : after.calls = before.calls
  /-- No success was counted. -/
  successes : after.successes = before.successes
  /-- No failure was counted. -/
  failures : after.failures = before.failures
  /-- No latency was counted. -/
  latency : after.latency = before.latency
  /-- The rejections. -/
  rejections : after.rejections = before.rejections + rejected

theorem sees_observe (metrics : ProviderMetrics) (notice : Notice) :
    metrics.Sees ([notice].count .rejected) (metrics.observe notice) := by
  cases notice with
  | rejected => exact ⟨rfl, rfl, rfl, rfl, rfl⟩
  | changed transition =>
      obtain ⟨origin, target, wall⟩ := transition
      cases target <;> exact ⟨rfl, rfl, rfl, rfl, rfl⟩

theorem Sees.trans {first second third : ProviderMetrics} {some more : Nat}
    (left : first.Sees some second) (right : second.Sees more third) :
    first.Sees (some + more) third := by
  refine ⟨right.calls.trans left.calls, right.successes.trans left.successes,
    right.failures.trans left.failures, right.latency.trans left.latency, ?_⟩
  rw [right.rejections, left.rejections, Nat.add_assoc]

end ProviderMetrics

theorem Metrics.sees_observe (metrics : Metrics) (event : Event) (provider : String) :
    (metrics.provider provider).Sees ([event].count ⟨provider, .rejected⟩)
      ((metrics.observe event).provider provider) := by
  obtain ⟨name, notice⟩ := event
  have counted := Bank.count_events name provider [notice]
  rw [List.map_singleton] at counted
  rw [observe, provider_update, counted]
  split
  · exact ProviderMetrics.sees_observe _ notice
  · exact ⟨rfl, rfl, rfl, rfl, rfl⟩

/-- What breakers report counts in the metrics as their rejections only. -/
theorem Metrics.sees_observeAll (provider : String) (events : List Event) :
    ∀ metrics : Metrics, (metrics.provider provider).Sees (events.count ⟨provider, .rejected⟩)
      ((metrics.observeAll events).provider provider) := by
  induction events with
  | nil => exact fun _ => ⟨rfl, rfl, rfl, rfl, rfl⟩
  | cons event events ih =>
      intro metrics
      rw [← List.singleton_append, List.count_append]
      exact (metrics.sees_observe event provider).trans (ih (metrics.observe event))

theorem HealthTracker.getOrFresh_record (tracker : HealthTracker) (name provider : String)
    (succeeded : Bool) (latency : Duration) :
    (tracker.record name succeeded latency).getOrFresh provider =
      if name = provider then (tracker.getOrFresh provider).record succeeded latency
      else tracker.getOrFresh provider := by
  unfold record getOrFresh get?
  rw [Table.get?_insert]
  by_cases same : name = provider
  · subst same
    rw [if_pos rfl, if_pos rfl]
    rfl
  · rw [if_neg same, if_neg same]

theorem Histogram.total_record (value : Float) (histogram : Histogram) :
    (histogram.record value).total = histogram.total + (!histogram.bounds.isEmpty).toNat := by
  unfold record
  split
  · rename_i none
    rw [none]
    rfl
  · rename_i some
    rw [Bool.not_eq_true] at some
    rw [some]
    rfl

theorem EngineSettings.get?_bank (settings : EngineSettings) (provider : String) :
    settings.bank.get? provider = none := by
  have kept (overrides : List (String × Thresholds)) : ∀ bank : Bank, bank.get? provider = none →
      (overrides.foldl (fun bank entry => bank.setProvider entry.1 entry.2) bank).get? provider =
        none := by
    induction overrides with
    | nil => exact fun _ none => none
    | cons entry overrides ih =>
        intro bank none
        refine ih _ ?_
        change (bank.breakers.map _).get? provider = .none
        rw [Bank.get?] at none
        rw [Table.get?_map, none, Option.map_none]
  exact kept settings.overrides (.ofDefaults settings.thresholds) rfl

/-! ## Engines -/

namespace Engine

/-- What the stores have counted for a provider. -/
def books (provider : String) (engine : Engine) : ProviderBooks where
  breakerSuccesses := (engine.bank.getOrFresh provider).totalSuccesses
  breakerFailures := (engine.bank.getOrFresh provider).totalFailures
  breakerRejections := (engine.bank.getOrFresh provider).rejections
  samples := (engine.health.getOrFresh provider).samples
  healthSuccesses := (engine.health.getOrFresh provider).successes
  healthFailures := (engine.health.getOrFresh provider).failures
  calls := (engine.metrics.provider provider).calls
  successes := (engine.metrics.provider provider).successes
  failures := (engine.metrics.provider provider).failures
  rejections := (engine.metrics.provider provider).rejections
  measured := !(engine.metrics.provider provider).latency.bounds.isEmpty
  latencies := (engine.metrics.provider provider).latency.total

variable {engine : Engine} {name provider : String}

theorem books_build (settings : EngineSettings) (clock : Clock) (provider : String) :
    (settings.build clock).books provider = .balanced 0 0 0 := by
  have fresh : (settings.build clock).bank.getOrFresh provider =
      .fresh (settings.bank.thresholdsFor provider) := by
    change settings.bank.getOrFresh provider = _
    rw [Bank.getOrFresh, settings.get?_bank provider, Option.getD_none]
  unfold books
  rw [fresh]
  rfl

theorem books_onBank {operation : BankOperation} {succeeded failed rejected : Nat}
    (counts : engine.bank.Counts provider succeeded failed rejected
      (engine.bank.apply operation engine.clock.moment)) :
    (engine.onBank operation).1.books provider =
      (engine.books provider).onBreaker succeeded failed rejected := by
  have sees := engine.metrics.sees_observeAll provider
    (engine.bank.apply operation engine.clock.moment).events
  rw [counts.events] at sees
  unfold onBank report books
  dsimp only
  rw [counts.successes, counts.failures, counts.rejections, sees.calls, sees.successes,
    sees.failures, sees.latency, sees.rejections]
  rfl

theorem books_onHealth (engine : Engine) (name provider : String) (succeeded : Bool)
    (latency : Duration) :
    (engine.onHealth (·.record name succeeded latency)).books provider =
      if name = provider then (engine.books provider).onHealth succeeded
      else engine.books provider := by
  unfold onHealth books
  dsimp only
  rw [HealthTracker.getOrFresh_record]
  split <;> rfl

theorem books_onMetrics (engine : Engine) (name provider : String) (succeeded : Bool)
    (latency : Duration) :
    (engine.onMetrics (·.recordCall name succeeded latency)).books provider =
      if name = provider then (engine.books provider).onMetrics succeeded
      else engine.books provider := by
  unfold onMetrics books Metrics.recordCall
  dsimp only
  rw [Metrics.provider_update]
  split
  · unfold ProviderMetrics.recordCall Histogram.recordDuration ProviderBooks.onMetrics
    dsimp only
    rw [Histogram.bounds_record, Histogram.total_record]
  · rfl

/-- Recording the outcome of a call counts it in all stores alike. -/
theorem books_recordOutcome (engine : Engine) (name provider : String) (succeeded : Bool)
    (latency : Duration) (lastResort : Bool) :
    (engine.recordOutcome name succeeded latency lastResort).books provider =
      if name = provider then
        (((engine.books provider).onBreaker succeeded.toNat (!succeeded).toNat 0).onHealth
          succeeded).onMetrics succeeded
      else engine.books provider := by
  unfold recordOutcome
  dsimp only
  rw [books_onMetrics, books_onHealth]
  by_cases same : name = provider
  · subst same
    rw [if_pos rfl, if_pos rfl, if_pos rfl]
    congr 2
    cases lastResort with
    | true => exact books_onBank (Bank.counts_settle (Breaker.counts_recordBypass _ _ _))
    | false => exact books_onBank (Bank.counts_settle (Breaker.counts_record _ _ _))
  · rw [if_neg same, if_neg same, if_neg same]
    have counts (operation : BankOperation) (outcome : Breaker.Outcome)
        (settled : engine.bank.apply operation engine.clock.moment =
          engine.bank.settle name outcome) :
        engine.bank.Counts provider 0 0 0 (engine.bank.apply operation engine.clock.moment) := by
      rw [settled]
      exact Bank.counts_settle_other same
    cases lastResort with
    | true => exact books_onBank (counts (.bypass name succeeded) _ rfl)
    | false => exact books_onBank (counts (.record name succeeded) _ rfl)

theorem books_allow (engine : Engine) (name provider : String) :
    (engine.onBank (.allow name)).1.books provider =
      (engine.books provider).onBreaker 0 0
        (if name = provider then (!(engine.onBank (.allow name)).2).toNat else 0) := by
  by_cases same : name = provider
  · subst same
    rw [if_pos rfl]
    exact books_onBank (Bank.counts_allow _ _ _)
  · rw [if_neg same]
    have counts : engine.bank.Counts provider 0 0 0
        (engine.bank.apply (.allow name) engine.clock.moment) := Bank.counts_allow_other same
    exact books_onBank counts

theorem books_setSelection (selection : Selection) (provider : String) (engine : Engine) :
    (engine.setSelection selection).books provider = engine.books provider := by
  have found : (engine.health.setFactor selection.factor).get? provider =
      (engine.health.get? provider).map (·.setFactor selection.factor) :=
    Table.get?_map _ _ _
  unfold setSelection onHealth books HealthTracker.getOrFresh
  dsimp only
  rw [found]
  cases engine.health.get? provider <;> rfl

theorem books_plan (request : PlanRequest) (provider : String) (engine : Engine) :
    (engine.plan request).1.books provider = engine.books provider := by
  unfold plan
  split <;> rfl

/-! ## Totals -/

theorem totals_observeAll (events : List Event) :
    ∀ metrics : Metrics, (metrics.observeAll events).totals = metrics.totals := by
  induction events with
  | nil => exact fun _ => rfl
  | cons event events ih => exact fun metrics => ih (metrics.observe event)

theorem totals_onBank (operation : BankOperation) (engine : Engine) :
    (engine.onBank operation).1.metrics.totals = engine.metrics.totals :=
  totals_observeAll _ _

theorem totals_recordOutcome (name : String) (succeeded : Bool) (latency : Duration)
    (lastResort : Bool) (engine : Engine) :
    (engine.recordOutcome name succeeded latency lastResort).metrics.totals =
      engine.metrics.totals :=
  totals_onBank _ _

theorem totals_count (counter other : Counter) (engine : Engine) :
    (engine.count counter).metrics.totals.get other =
      engine.metrics.totals.get other + if counter = other then 1 else 0 := by
  cases counter <;> cases other <;> rfl

end Engine

end ProviderRouting
