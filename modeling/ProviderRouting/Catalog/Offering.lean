import ProviderRouting.Catalog.Cost

/-!
# Offerings

An offering is one provider's way to serve a logical model: the name under which the provider knows
the model, its rank and cost, and what it can do.
-/

namespace ProviderRouting

/-- What an offering can do, or what a request asks for. -/
structure Capabilities where
  /-- Streamed responses. -/
  streaming : Bool
  /-- Function calling. -/
  functionCalling : Bool
  /-- Image input. -/
  vision : Bool
deriving DecidableEq, Inhabited

namespace Capabilities

/-- Nothing. -/
def none : Capabilities := ⟨false, false, false⟩

/-- Everything. -/
def all : Capabilities := ⟨true, true, true⟩

/-- Whether everything that is asked for is offered. -/
def satisfies (offered asked : Capabilities) : Bool :=
  (!asked.streaming || offered.streaming)
    && (!asked.functionCalling || offered.functionCalling)
    && (!asked.vision || offered.vision)

end Capabilities

/-- How one provider serves a logical model. -/
structure Offering where
  /-- The provider. -/
  provider : String
  /-- The provider's name for the model. -/
  providerModel : String
  /-- Lower is preferred. -/
  priority : UInt32
  /-- Cost of a thousand input tokens. -/
  inputCost : Cost
  /-- Cost of a thousand output tokens. -/
  outputCost : Cost
  /-- The most output tokens the provider allows. -/
  maxOutputTokens : Option UInt32
  /-- What the offering can do. -/
  capabilities : Capabilities
  /-- Whether the operator lets it be used. -/
  available : Bool
  /-- Whether calls need credentials. -/
  requiresCredentials : Bool
deriving Inhabited

namespace Offering

/-- An available offering with priority zero and without cost. -/
def basic (provider providerModel : String) : Offering where
  provider := provider
  providerModel := providerModel
  priority := 0
  inputCost := .zero
  outputCost := .zero
  maxOutputTokens := none
  capabilities := .none
  available := true
  requiresCredentials := false

/-- The cost of a thousand tokens each way. -/
def combinedCost (offering : Offering) : Cost := offering.inputCost.add offering.outputCost

end Offering

end ProviderRouting
