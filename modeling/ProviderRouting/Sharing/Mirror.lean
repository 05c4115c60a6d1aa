import ProviderRouting.Breaker.Bank
import ProviderRouting.Sharing.State

/-!
# Mirrors

A mirror keeps the bank of an instance in step with a store.  It publishes what the breakers report,
and adopts the openings that other instances have published.  That another instance's breaker has
closed does not close a breaker: every instance finds out by probes of its own.
-/

namespace ProviderRouting.Mirror

/-- The state that an instance publishes for a change of phase. -/
def stateOf (instanceId : InstanceId) (transition : Transition) : SharedState :=
  { phase := transition.target
    openedAt := if transition.target = .opened then some transition.wall else none
    updatedAt := transition.wall
    instanceId := instanceId }

/-- The opening that an instance may adopt from a published state. -/
def opening? (own : InstanceId) (state : SharedState) : Option Timestamp :=
  if state.instanceId = own ∨ state.phase ≠ .opened then none else state.openedAt

/-- What pulling leaves: the bank, how many openings were adopted, and what observers are told. -/
structure PullOutcome where
  /-- The bank afterwards. -/
  bank : Bank
  /-- The number of adopted openings. -/
  adopted : Nat
  /-- What the observers are told, in order. -/
  events : List Event

/-- Adopt the opening in one published state, if there is one to adopt. -/
def adoptState (own : InstanceId) (moment : Moment) (outcome : PullOutcome)
    (provider : String) (state : SharedState) : PullOutcome :=
  match opening? own state with
  | none => outcome
  | some opened =>
    let adoption := outcome.bank.adopt provider opened moment
    ⟨adoption.bank, outcome.adopted + adoption.granted.toNat, outcome.events ++ adoption.events⟩

/-- Adopt the openings in fetched states.  If they could not be fetched nothing happens. -/
def pull (own : InstanceId) (moment : Moment) (fetched : Except StoreFault (Table SharedState))
    (bank : Bank) : PullOutcome :=
  match fetched with
  | .error _ => ⟨bank, 0, []⟩
  | .ok states =>
    states.entries.foldl (fun outcome entry => adoptState own moment outcome entry.1 entry.2)
      ⟨bank, 0, []⟩

end ProviderRouting.Mirror
