import ProviderRouting.Breaker.Bank
import ProviderRouting.Catalog.Registry
import ProviderRouting.Health.Tracker
import ProviderRouting.Plan.Candidate
import ProviderRouting.Plan.Selection

/-!
# Plans

A plan lists the offerings of a model that can serve a request, in the order in which they are to
be tried.  Offerings of open providers are never dropped, only put last.  A preferred provider that
is not open comes first.
-/

namespace ProviderRouting

/-- Why the engine cannot answer. -/
inductive RoutingError where
  /-- The model is not known. -/
  | modelNotFound (model : String)
  /-- The model is known and no offering can serve the request. -/
  | noProviders (model : String)
  /-- The provider has no breaker yet. -/
  | breakerNotFound (provider : String)
deriving DecidableEq

namespace RoutingError

/-- What went wrong, in words. -/
def message : RoutingError → String
  | modelNotFound model => "Model not found: " ++ model
  | noProviders model => "No providers available for model: " ++ model
  | breakerNotFound provider => "No circuit breaker recorded for provider: " ++ provider

/-- Whether something that was named is not known. -/
def isNotFound : RoutingError → Bool
  | modelNotFound _ => true
  | noProviders _ => false
  | breakerNotFound _ => true

end RoutingError

/-- What a caller asks for. -/
structure PlanRequest where
  /-- The model. -/
  model : String
  /-- The provider to try first. -/
  preferred : Option String
  /-- What the offering must be able to do. -/
  required : Capabilities
deriving DecidableEq

/-- One planned attempt. -/
structure Attempt where
  /-- The provider. -/
  provider : String
  /-- The provider's name for the model. -/
  providerModel : String
  /-- The place in the plan. -/
  rank : Nat
  /-- The phase of the provider when the plan was made. -/
  phase : Phase
deriving DecidableEq, Inhabited

namespace PlanRequest

/-- A request for a model without preference or requirements. -/
def forModel (model : String) : PlanRequest := ⟨model, none, .none⟩

end PlanRequest

/-- What planning looks at. -/
structure PlanningView where
  /-- The known models. -/
  registry : Registry
  /-- The breakers. -/
  bank : Bank
  /-- The health statistics. -/
  health : HealthTracker
  /-- The selection settings. -/
  selection : Selection

namespace PlanningView

/-- Whether an offering can serve a request. -/
def eligible (view : PlanningView) (request : PlanRequest) (offering : Offering) : Bool :=
  offering.available && offering.capabilities.satisfies request.required
    && view.selection.hasCredentials offering

/-- An offering with the present phase and health of its provider. -/
def candidate (view : PlanningView) (offering : Offering) : Candidate :=
  let health := view.health.snapshot offering.provider
  { offering := offering
    phase := view.bank.phase offering.provider
    degraded := health.isDegraded view.selection.degradedRate view.selection.degradedLatency
    health := health }

/-- Whether a candidate is the preferred one and not open. -/
def isPreferred (request : PlanRequest) (candidate : Candidate) : Bool :=
  request.preferred == some candidate.offering.provider && !candidate.isOpen

/-- Number the attempts of ranked candidates from a rank on. -/
def number : (rank : Nat) → List Candidate → List Attempt
  | _, [] => []
  | rank, candidate :: rest =>
    ⟨candidate.offering.provider, candidate.offering.providerModel, rank, candidate.phase⟩
      :: number (rank + 1) rest

/-- Plan the attempts for a request. -/
def plan (view : PlanningView) (request : PlanRequest) : Except RoutingError (List Attempt) :=
  match view.registry.lookup? request.model with
  | none => .error (.modelNotFound request.model)
  | some model =>
    let candidates := (model.offerings.filter (view.eligible request)).map view.candidate
    if candidates.isEmpty then .error (.noProviders request.model)
    else .ok (number 0 (Candidate.pin (isPreferred request) (Candidate.rank candidates)))

end PlanningView

end ProviderRouting
