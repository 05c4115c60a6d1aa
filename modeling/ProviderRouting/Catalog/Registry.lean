import ProviderRouting.Catalog.Model
import ProviderRouting.Table

/-!
# Registries

A registry knows logical models by their identifiers.  A model once known is never forgotten; when
a catalog no longer lists it, it stays known without offerings.
-/

namespace ProviderRouting

/-- The known models by identifier. -/
structure Registry where
  /-- The models. -/
  models : Table Model
deriving Inhabited

namespace Registry

/-- The registry that knows no model. -/
def empty : Registry := ⟨.empty⟩

/-- Know a model, in place of an earlier one with its identifier. -/
def put (registry : Registry) (model : Model) : Registry :=
  ⟨registry.models.insert model.id model.dedupe⟩

/-- Know several models; of those with one identifier the last counts. -/
def register (models : List Model) (registry : Registry) : Registry :=
  models.foldl put registry

/-- Take the offerings of every model that a catalog does not list. -/
def retire (listed : List String) (registry : Registry) : Registry :=
  ⟨registry.models.map fun id model =>
    if listed.contains id then model else model.withOfferings []⟩

/-- Make a list of models the whole catalog: unlisted models stay known without offerings. -/
def replaceAll (models : List Model) (registry : Registry) : Registry :=
  (registry.retire (models.map (·.id))).register models

/-- How many models lose their offerings when a list of models becomes the whole catalog. -/
def emptiedBy (models : List Model) (registry : Registry) : Nat :=
  registry.models.entries.countP fun entry =>
    !(models.map (·.id)).contains entry.1 && !entry.2.offerings.isEmpty

/-- The model with an identifier. -/
def lookup? (registry : Registry) (id : String) : Option Model := registry.models.get? id

/-- Replace the offerings of one model, which becomes known if it was not. -/
def setOfferings (id : String) (offerings : List Offering) (registry : Registry) : Registry :=
  registry.put (((registry.lookup? id).getD (.named id)).withOfferings offerings)

/-- Whether an identifier is known. -/
def contains (registry : Registry) (id : String) : Bool := registry.models.contains id

/-- The number of known models. -/
def size (registry : Registry) : Nat := registry.models.size

/-- The known models by identifier. -/
def all (registry : Registry) : List Model := registry.models.values

/-- The number of offerings of all models. -/
def offerings (registry : Registry) : Nat := (registry.all.map (·.offerings.length)).foldr (· + ·) 0

/-- The providers that offer some model, each once, in name order. -/
def providerNames (registry : Registry) : List String :=
  distinctNames (registry.all.flatMap fun model => model.offerings.map (·.provider))

end Registry

end ProviderRouting
