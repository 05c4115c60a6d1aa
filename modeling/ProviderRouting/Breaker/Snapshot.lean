import ProviderRouting.Breaker.Basic
import ProviderRouting.Text.Inspected

/-!
# Breaker snapshots

A snapshot shows a breaker at one moment.  Taking it prunes the window and changes nothing else.
-/

namespace ProviderRouting

/-- What a breaker shows at one moment. -/
structure BreakerSnapshot where
  /-- The provider. -/
  provider : String
  /-- The phase. -/
  phase : Phase
  /-- Failures since the last success. -/
  failureCount : Nat
  /-- Successful probes since it became half-open. -/
  successCount : Nat
  /-- The failing fraction of the window. -/
  failureRate : Float
  /-- The number of outcomes in the window. -/
  windowSamples : Nat
  /-- The wall time at which it last opened, unless it is closed. -/
  openedAt : Option Timestamp
  /-- Seconds until a probe is admitted, rounded up, while it is open. -/
  secondsUntilRetry : Option Nat
  /-- Successes recorded so far. -/
  totalSuccesses : Nat
  /-- Failures recorded so far. -/
  totalFailures : Nat
  /-- Calls rejected so far. -/
  rejections : Nat
  /-- How often it opened. -/
  timesOpened : Nat

namespace Breaker

/-- The time for which an open breaker still rejects calls. -/
def remaining (now : Int) (breaker : Breaker) (opened : Int) : Duration :=
  breaker.thresholds.timeout - elapsedSince now opened

/-- Seconds until a probe is admitted: the whole milliseconds of the remaining time, rounded up to
seconds. -/
def secondsUntilRetry (now : Int) (breaker : Breaker) : Option Nat :=
  match breaker.phase, breaker.openedAt with
  | .opened, some opened => some ((breaker.remaining now opened / 1000000 + 999) / 1000)
  | _, _ => none

/-- What a breaker with a pruned window shows. -/
def view (provider : String) (moment : Moment) (breaker : Breaker) : BreakerSnapshot where
  provider := provider
  phase := breaker.phase
  failureCount := breaker.failures
  successCount := breaker.successes
  failureRate := breaker.window.failureRate
  windowSamples := breaker.window.size
  openedAt := if breaker.phase = .closed then none else breaker.openedWall
  secondsUntilRetry := breaker.secondsUntilRetry moment.instant
  totalSuccesses := breaker.totalSuccesses
  totalFailures := breaker.totalFailures
  rejections := breaker.rejections
  timesOpened := breaker.timesOpened

/-- Prune the window and show the breaker. -/
def snapshot (provider : String) (moment : Moment) (breaker : Breaker) :
    Breaker × BreakerSnapshot :=
  let pruned := breaker.prune moment
  (pruned, pruned.view provider moment)

/-- The inspection text of a breaker. -/
def inspect (provider : String) (breaker : Breaker) : String :=
  "ProviderBreaker \x7b provider: " ++ Text.inspect provider
    ++ ", phase: " ++ breaker.phase.label
    ++ ", consecutive_failures: " ++ toString breaker.failures
    ++ ", consecutive_successes: " ++ toString breaker.successes ++ " \x7d"

end Breaker

end ProviderRouting
