import ProviderRouting.Plan.Basic

/-!
# Reports of failover runs

A report lists every examined attempt with its outcome.  It says besides whether the run succeeded,
with the response and the provider that gave it, how many calls were made, and whether the run was
cancelled.
-/

namespace ProviderRouting

/-- What became of one examined attempt. -/
inductive AttemptOutcome where
  /-- The provider gave a response. -/
  | succeeded
  /-- The provider gave an error. -/
  | failed (error : String)
  /-- The breaker rejected the call, so the provider was not asked. -/
  | skipped
  /-- The run was cancelled while the call was in flight. -/
  | cancelled
deriving DecidableEq

namespace AttemptOutcome

/-- Whether the provider was asked. -/
def wasCalled : AttemptOutcome → Bool
  | skipped => false
  | _ => true

/-- The error that the provider gave. -/
def error? : AttemptOutcome → Option String
  | failed error => some error
  | _ => none

/-- The name of an outcome. -/
def kind : AttemptOutcome → String
  | succeeded => "succeeded"
  | failed _ => "failed"
  | skipped => "skipped_circuit_open"
  | cancelled => "cancelled"

end AttemptOutcome

/-- One examined attempt. -/
structure AttemptRecord where
  /-- The provider. -/
  provider : String
  /-- The provider's name for the model. -/
  providerModel : String
  /-- The place in the plan. -/
  rank : Nat
  /-- What became of it. -/
  outcome : AttemptOutcome
  /-- How long the call took, if there was one. -/
  latency : Option Duration
  /-- Whether the call was made although every breaker rejected it. -/
  lastResort : Bool
deriving DecidableEq

/-- The result of a failover run. -/
structure RunReport where
  /-- The model that was asked for. -/
  model : String
  /-- Whether a provider gave a response. -/
  success : Bool
  /-- The response. -/
  response : Option String
  /-- The provider that gave the response. -/
  providerUsed : Option String
  /-- The number of calls made. -/
  tried : Nat
  /-- Every examined attempt, in order. -/
  records : List AttemptRecord
  /-- Whether the run was cancelled. -/
  cancelled : Bool
deriving DecidableEq

namespace RunReport

/-- The report of a run that has not examined anything. -/
def empty (model : String) : RunReport := ⟨model, false, none, none, 0, [], false⟩

/-- The report of a run to which a provider gave a response. -/
def succeed (provider response : String) (report : RunReport) : RunReport :=
  { report with success := true, response := some response, providerUsed := some provider }

/-- The errors of providers, in order. -/
def errors (report : RunReport) : List (String × String) :=
  report.records.filterMap fun record =>
    record.outcome.error?.map fun error => (record.provider, error)

/-- The last error of a provider. -/
def lastError (report : RunReport) : Option String := report.errors.getLast?.map (·.2)

/-- The number of attempts that breakers rejected. -/
def skipped (report : RunReport) : Nat := report.records.countP (!·.outcome.wasCalled)

/-- Whether breakers rejected every planned attempt that was examined, and there was one. -/
def allCircuitBroken (report : RunReport) : Bool :=
  let planned := report.records.filter (!·.lastResort)
  !planned.isEmpty && planned.all (!·.outcome.wasCalled)

/-- A number of providers attempted. -/
def attempted (count : Nat) : String :=
  toString count ++ " provider" ++ (if count = 1 then "" else "s") ++ " attempted"

/-- The report in one line. -/
def summary (report : RunReport) : String :=
  if report.success then
    "succeeded via " ++ report.providerUsed.getD "unknown" ++ " after " ++ attempted report.tried
  else if report.cancelled then "cancelled after " ++ attempted report.tried
  else if report.allCircuitBroken then
    match report.records.find? (·.lastResort) with
    | some record =>
      "all providers currently circuit-broken; last-resort call to " ++ record.provider
        ++ " failed"
    | none => "all providers currently circuit-broken"
  else
    attempted report.tried ++ ", all failed"
      ++ (if 0 < report.skipped then
        " (" ++ toString report.skipped ++ " skipped with open circuit)" else "")

end RunReport

end ProviderRouting
