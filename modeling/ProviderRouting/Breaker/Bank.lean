import ProviderRouting.Breaker.Snapshot
import ProviderRouting.Table

/-!
# Breaker banks

A bank holds one breaker per provider.  A breaker comes into being when something is first recorded
for its provider; until then the provider counts as closed and every call to it is admitted.  The
thresholds of a provider are its own if some were set, else the default ones.
-/

namespace ProviderRouting

/-- What observers are told, with the provider it is about. -/
structure Event where
  /-- The provider. -/
  provider : String
  /-- What happened to its breaker. -/
  notice : Notice
deriving DecidableEq

/-- The breakers of all providers. -/
structure Bank where
  /-- The breakers that exist. -/
  breakers : Table Breaker
  /-- Thresholds of providers without their own. -/
  defaults : Thresholds
  /-- Thresholds set for single providers. -/
  overrides : Table Thresholds

/-- What an operation on a bank leaves. -/
structure Bank.Outcome where
  /-- The bank afterwards. -/
  bank : Bank
  /-- Whether the operation was granted. -/
  granted : Bool
  /-- What the observers are told, in order. -/
  events : List Event

/-- An operation on a bank. -/
inductive BankOperation where
  /-- Ask whether a call may proceed. -/
  | allow (provider : String)
  /-- Record the outcome of an admitted call. -/
  | record (provider : String) (succeeded : Bool)
  /-- Record the outcome of a call made without asking. -/
  | bypass (provider : String) (succeeded : Bool)
  /-- Return one breaker to closed. -/
  | reset (provider : String)
  /-- Return every breaker to closed. -/
  | resetAll
  /-- Adopt an opening seen elsewhere. -/
  | adopt (provider : String) (openedWall : Timestamp)
  /-- Set the default thresholds. -/
  | setDefault (thresholds : Thresholds)
  /-- Set the thresholds of one provider. -/
  | setProvider (provider : String) (thresholds : Thresholds)
  /-- Look at one breaker. -/
  | snapshot (provider : String)
  /-- Look at every breaker. -/
  | snapshots

namespace Bank

/-- A bank without breakers. -/
def ofDefaults (thresholds : Thresholds) : Bank := ⟨.empty, thresholds, .empty⟩

instance : Inhabited Bank := ⟨ofDefaults .standard⟩

/-- The thresholds that apply to a provider. -/
def thresholdsFor (bank : Bank) (provider : String) : Thresholds :=
  (bank.overrides.get? provider).getD bank.defaults

/-- The breaker of a provider, if there is one. -/
def get? (bank : Bank) (provider : String) : Option Breaker := bank.breakers.get? provider

/-- The breaker of a provider, a fresh one if there is none. -/
def getOrFresh (bank : Bank) (provider : String) : Breaker :=
  (bank.get? provider).getD (.fresh (bank.thresholdsFor provider))

/-- The phase of a provider; one without a breaker is closed. -/
def phase (bank : Bank) (provider : String) : Phase :=
  match bank.get? provider with
  | some breaker => breaker.phase
  | none => .closed

/-- The number of breakers. -/
def size (bank : Bank) : Nat := bank.breakers.size

/-- Put a breaker in its place. -/
def put (bank : Bank) (provider : String) (breaker : Breaker) : Bank :=
  { bank with breakers := bank.breakers.insert provider breaker }

/-- Store what an operation on one breaker left. -/
def settle (bank : Bank) (provider : String) (outcome : Breaker.Outcome) : Outcome where
  bank := bank.put provider outcome.breaker
  granted := outcome.granted
  events := outcome.notices.map (⟨provider, ·⟩)

/-- Ask whether a call may proceed.  A provider without a breaker is not given one. -/
def allow (provider : String) (moment : Moment) (bank : Bank) : Outcome :=
  match bank.get? provider with
  | some breaker => bank.settle provider (breaker.allow moment)
  | none => ⟨bank, true, []⟩

/-- Record the outcome of an admitted call. -/
def record (provider : String) (succeeded : Bool) (moment : Moment) (bank : Bank) : Outcome :=
  let breaker := bank.getOrFresh provider
  bank.settle provider
    (if succeeded then breaker.recordSuccess moment else breaker.recordFailure moment)

/-- Record the outcome of a call that was made without asking. -/
def recordBypass (provider : String) (succeeded : Bool) (moment : Moment) (bank : Bank) :
    Outcome :=
  bank.settle provider ((bank.getOrFresh provider).recordBypass succeeded moment)

/-- Return one breaker to closed. -/
def reset (provider : String) (moment : Moment) (bank : Bank) : Outcome :=
  bank.settle provider ((bank.getOrFresh provider).reset moment)

/-- Return every existing breaker to closed. -/
def resetAll (moment : Moment) (bank : Bank) : Outcome where
  bank :=
    { bank with breakers := bank.breakers.map fun _ breaker => (breaker.reset moment).breaker }
  granted := true
  events := bank.breakers.entries.flatMap fun entry =>
    (entry.2.reset moment).notices.map (⟨entry.1, ·⟩)

/-- Adopt an opening that another instance saw. -/
def adopt (provider : String) (openedWall : Timestamp) (moment : Moment) (bank : Bank) : Outcome :=
  bank.settle provider ((bank.getOrFresh provider).adopt openedWall moment)

/-- Set the default thresholds; existing breakers without their own take them over. -/
def setDefault (thresholds : Thresholds) (bank : Bank) : Bank :=
  { bank with
    defaults := thresholds
    breakers := bank.breakers.map fun provider breaker =>
      if bank.overrides.contains provider then breaker else breaker.setThresholds thresholds }

/-- Set the thresholds of one provider; its breaker takes them over. -/
def setProvider (provider : String) (thresholds : Thresholds) (bank : Bank) : Bank :=
  { bank with
    overrides := bank.overrides.insert provider thresholds
    breakers := bank.breakers.map fun name breaker =>
      if name = provider then breaker.setThresholds thresholds else breaker }

/-- Look at one breaker. -/
def snapshot (provider : String) (moment : Moment) (bank : Bank) :
    Bank × Option BreakerSnapshot :=
  match bank.get? provider with
  | some breaker =>
    let (pruned, view) := breaker.snapshot provider moment
    (bank.put provider pruned, some view)
  | none => (bank, none)

/-- Look at every breaker. -/
def snapshots (moment : Moment) (bank : Bank) : Bank × Table BreakerSnapshot :=
  ({ bank with breakers := bank.breakers.map fun _ breaker => breaker.prune moment },
    bank.breakers.map fun provider breaker => (breaker.snapshot provider moment).2)

/-- A bank that changed without anything to tell. -/
def quiet (bank : Bank) : Outcome := ⟨bank, true, []⟩

/-- Carry out an operation at a moment. -/
def apply (operation : BankOperation) (moment : Moment) (bank : Bank) : Outcome :=
  match operation with
  | .allow provider => bank.allow provider moment
  | .record provider succeeded => bank.record provider succeeded moment
  | .bypass provider succeeded => bank.recordBypass provider succeeded moment
  | .reset provider => bank.reset provider moment
  | .resetAll => bank.resetAll moment
  | .adopt provider openedWall => bank.adopt provider openedWall moment
  | .setDefault thresholds => (bank.setDefault thresholds).quiet
  | .setProvider provider thresholds => (bank.setProvider provider thresholds).quiet
  | .snapshot provider => (bank.snapshot provider moment).1.quiet
  | .snapshots => (bank.snapshots moment).1.quiet

end Bank

end ProviderRouting
