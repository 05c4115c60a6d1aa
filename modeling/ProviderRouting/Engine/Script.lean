import ProviderRouting.Engine.Failover
import ProviderRouting.Table

/-!
# Scripted calls

A script says in advance what every call of a failover run does, so that a run can be rehearsed
without providers.  The n-th call to a provider follows the n-th entry of its list, the last entry
repeating; a provider without entries succeeds at once.

A run may carry a token by which it is told to stop.  The token is looked at before the call, so a
run told to stop when it is about to make a call cancels that call before it starts; a call that
ends in the same moment as the token fires counts with its own outcome.
-/

namespace ProviderRouting

/-- How a scripted call ends. -/
inductive ScriptedEnd where
  /-- With a response; without a text of its own it names the provider and the model. -/
  | succeed (response : Option String)
  /-- With an error; without a text of its own it names the provider. -/
  | fail (error : Option String)
  /-- Never. -/
  | hang
deriving DecidableEq, Inhabited

/-- What one call does, in the order of the fields.  `ρ` is what the activity during the call
gives. -/
structure ScriptedCall (ρ : Type) where
  /-- Whether the token fires when the call is about to start. -/
  stopsBefore : Bool
  /-- How long the call takes. -/
  delay : Duration
  /-- What else happens to the engine while the call is in flight. -/
  during : Option (Engine → Engine × ρ)
  /-- Whether the token fires while the call is in flight. -/
  stopsDuring : Bool
  /-- How the call ends. -/
  ending : ScriptedEnd

/-- What the calls of one run do. -/
structure Script (ρ : Type) where
  /-- Whether the run looks at its token. -/
  hasToken : Bool
  /-- Whether the token fires as soon as any breaker rejects a call. -/
  stopsOnReject : Bool
  /-- The calls by provider. -/
  calls : Table (List (ScriptedCall ρ))

/-- One call that was made, with what the activity during it gave. -/
structure CallLogEntry (ρ : Type) where
  /-- The provider. -/
  provider : String
  /-- The provider's name for the model. -/
  providerModel : String
  /-- What the activity during the call gave. -/
  during : Option ρ

/-- How far a script has been followed. -/
structure ScriptState (ρ : Type) where
  /-- Whether the token has fired. -/
  fired : Bool
  /-- How many events had been reported when the run began. -/
  reported : Nat
  /-- The calls made so far. -/
  log : List (CallLogEntry ρ)

namespace Script

variable {ρ : Type}

/-- The script before the first call of a run on an engine. -/
def start (fired : Bool) (engine : Engine) : ScriptState ρ := ⟨fired, engine.journal.length, []⟩

/-- Whether a breaker has rejected a call since the run began. -/
def sawReject (state : ScriptState ρ) (engine : Engine) : Bool :=
  (engine.journal.drop state.reported).any fun event => event.notice == .rejected

/-- Whether the run has been told to stop. -/
def stopped (script : Script ρ) (state : ScriptState ρ) (engine : Engine) : Bool :=
  script.hasToken && (state.fired || script.stopsOnReject && sawReject state engine)

/-- The call of a provider that succeeds at once. -/
def plain : ScriptedCall ρ := ⟨false, 0, none, false, .succeed none⟩

/-- The entry that the next call to a provider follows. -/
def entry (script : Script ρ) (state : ScriptState ρ) (provider : String) : ScriptedCall ρ :=
  let entries := (script.calls.get? provider).getD []
  let made := state.log.countP (·.provider = provider)
  (entries[min made (entries.length - 1)]?).getD plain

/-- How a call ends by its script. -/
def finish (attempt : Attempt) : ScriptedEnd → CallEnd
  | .succeed response =>
    .succeeded (response.getD (attempt.provider ++ ":" ++ attempt.providerModel))
  | .fail error => .failed (error.getD (attempt.provider ++ " failed"))
  | .hang => .dropped

/-- Make a call by its entry. -/
def call (script : Script ρ) (attempt : Attempt) (state : ScriptState ρ) (engine : Engine) :
    CallReport (ScriptState ρ) :=
  let entry := script.entry state attempt.provider
  let fired := state.fired || entry.stopsBefore
  let logged (during : Option ρ) : List (CallLogEntry ρ) :=
    state.log ++ [⟨attempt.provider, attempt.providerModel, during⟩]
  if script.stopped { state with fired := fired } engine then
    ⟨⟨fired, state.reported, logged none⟩, engine, .cancelled⟩
  else
    let engine := engine.advance entry.delay
    let (engine, during) := match entry.during with
      | some activity =>
        let (engine, given) := activity engine
        (engine, some given)
      | none => (engine, none)
    ⟨⟨fired || entry.stopsDuring, state.reported, logged during⟩, engine,
      finish attempt entry.ending⟩

/-- The caller that follows a script. -/
def caller (script : Script ρ) : Caller (ScriptState ρ) := ⟨script.stopped, script.call⟩

end Script

end ProviderRouting
