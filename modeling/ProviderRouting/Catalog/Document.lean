import ProviderRouting.Catalog.Model
import ProviderRouting.Document.Decoding
import ProviderRouting.Text.Blank
import ProviderRouting.Toml.Reader

/-!
# Catalogs

A catalog lists models with their offerings.  It is read from a text and refused as a whole if it is
not of the right form or has an entry that cannot be meant: a model or a provider without a name, or
a negative cost.
-/

namespace ProviderRouting

open Document

/-- Capabilities; what is not given is missing. -/
def Capabilities.decode : Decoder Capabilities := fun conventions document => do
  let members ← members ["streaming", "function_calling", "vision"] conventions document
  return {
    streaming := ← members.orElse conventions "streaming" toBool false
    functionCalling := ← members.orElse conventions "function_calling" toBool false
    vision := ← members.orElse conventions "vision" toBool false }

/-- The document of capabilities. -/
def Capabilities.encode (capabilities : Capabilities) : Document :=
  .record [("streaming", .bool capabilities.streaming),
    ("function_calling", .bool capabilities.functionCalling),
    ("vision", .bool capabilities.vision)]

/-- A cost. -/
def Cost.decode : Decoder Cost
  | _, nan negative => some (.undefined negative)
  | conventions, document => (Document.toDouble conventions document).map Cost.amount

/-- The document of a cost. -/
def Cost.encode (cost : Cost) : Document := .float cost.toDouble

/-- An offering. -/
def Offering.decode : Decoder Offering := fun conventions document => do
  let members ← members ["provider", "provider_model_id", "priority", "input_cost_per_1k",
    "output_cost_per_1k", "max_output_tokens", "capabilities", "available",
    "requires_credentials"] conventions document
  return {
    provider := ← members.required conventions "provider" toText
    providerModel := ← members.required conventions "provider_model_id" toText
    priority := ← members.orElse conventions "priority" toWord32 0
    inputCost := ← members.orElse conventions "input_cost_per_1k" Cost.decode .zero
    outputCost := ← members.orElse conventions "output_cost_per_1k" Cost.decode .zero
    maxOutputTokens := ←
      members.orElse conventions "max_output_tokens" (toOption toWord32) none
    capabilities := ← members.orElse conventions "capabilities" Capabilities.decode .none
    available := ← members.orElse conventions "available" toBool true
    requiresCredentials := ← members.orElse conventions "requires_credentials" toBool false }

/-- The document of an offering. -/
def Offering.encode (offering : Offering) : Document :=
  .record [("provider", .text offering.provider),
    ("provider_model_id", .text offering.providerModel),
    ("priority", .natural offering.priority.toNat),
    ("input_cost_per_1k", offering.inputCost.encode),
    ("output_cost_per_1k", offering.outputCost.encode),
    ("max_output_tokens", .ofOption (fun count => .natural count.toNat) offering.maxOutputTokens),
    ("capabilities", offering.capabilities.encode),
    ("available", .bool offering.available),
    ("requires_credentials", .bool offering.requiresCredentials)]

/-- A modality, by its name. -/
def Modality.decode : Decoder Modality := toAlternative Modality.ofName?

/-- A model.  Without an explicit name for people it has an empty one. -/
def Model.decode : Decoder Model := fun conventions document => do
  let members ← members ["id", "display_name", "context_length", "modalities", "capabilities",
    "providers"] conventions document
  return {
    id := ← members.required conventions "id" toText
    displayName := ← members.orElse conventions "display_name" toText ""
    contextLength := ← members.orElse conventions "context_length" toWord32 0
    modalities := ← members.orElse conventions "modalities" (toList Modality.decode) []
    tags := ← members.orElse conventions "capabilities" (toList toText) []
    offerings := ← members.orElse conventions "providers" (toList Offering.decode) [] }

/-- The document of a model. -/
def Model.encode (model : Model) : Document :=
  .record [("id", .text model.id), ("display_name", .text model.displayName),
    ("context_length", .natural model.contextLength.toNat),
    ("modalities", .texts (model.modalities.map Modality.name)),
    ("capabilities", .texts model.tags),
    ("providers", .list (model.offerings.map Offering.encode))]

namespace Catalog

/-- The document of a catalog. -/
def encode (models : List Model) : Document := .record [("models", .list (models.map Model.encode))]

/-- The models that a catalog document lists. -/
def decode : Decoder (List Model) := fun conventions document => do
  let members ← members ["models"] conventions document
  members.orElse conventions "models" (toList Model.decode) []

/-- An entry that cannot be meant. -/
inductive Defect where
  /-- A model without an identifier. -/
  | unnamedModel
  /-- An offering without a provider. -/
  | unnamedProvider (model : String)
  /-- An offering with a negative cost. -/
  | negativeCost (model provider : String)
deriving DecidableEq

/-- What is wrong with an entry, in words. -/
def Defect.message : Defect → String
  | unnamedModel => "model with empty id"
  | unnamedProvider model => "model " ++ model ++ " has a provider with an empty name"
  | negativeCost model provider =>
    "model " ++ model ++ " provider " ++ provider ++ " has a negative cost"

/-- Whether a name has nothing but blanks. -/
def isUnnamed (name : String) : Bool := Text.allBlank name.toList

/-- The defect of an offering. -/
def offeringDefect (model : String) (offering : Offering) : Option Defect :=
  if isUnnamed offering.provider then some (.unnamedProvider model)
  else if offering.inputCost.isNegative ∨ offering.outputCost.isNegative then
    some (.negativeCost model offering.provider)
  else none

/-- The first defect of a model. -/
def modelDefect (model : Model) : Option Defect :=
  if isUnnamed model.id then some .unnamedModel
  else model.offerings.findSome? (offeringDefect model.id)

/-- Why a catalog text is refused. -/
inductive Fault where
  /-- The text is not of the right form. -/
  | malformed
  /-- An entry cannot be meant. -/
  | defective (defect : Defect)
deriving DecidableEq

/-- Why a catalog text is refused, in words. -/
def Fault.message : Fault → String
  | malformed => "Failed to parse catalog"
  | defective defect => "Invalid catalog entry: " ++ defect.message

/-- Read a catalog; the first defect counts. -/
def read (text : String) : Except Fault (List Model) :=
  match (Toml.read? text).bind (decode .toml) with
  | none => .error .malformed
  | some models =>
    match models.findSome? modelDefect with
    | some defect => .error (.defective defect)
    | none => .ok models

end Catalog

end ProviderRouting
