import Mathlib.Data.List.Induction
import Mathlib.Data.List.Nodup
import ProviderRouting.Catalog.Registry
import ProviderRouting.Proofs.Tables

/-!
# Updates of a registry

The known models change by three kinds of updates.  A registry is determined by its lookups, and
what an update makes of them is told by the models that it was given: the last one of an identifier
counts, and of a provider's offerings the first.
-/

namespace ProviderRouting

/-! ## Offerings of one provider -/

/-- The offerings of a list before which no other one is of the same provider. -/
def firstOccurrences (offerings : List Offering) : List Offering :=
  (offerings.zipIdx.filter fun entry =>
    entry.1.provider ∉ (offerings.take entry.2).map Offering.provider).map Prod.fst

theorem firstOccurrences_concat (offerings : List Offering) (last : Offering) :
    firstOccurrences (offerings ++ [last]) = firstOccurrences offerings ++
      if last.provider ∈ offerings.map Offering.provider then [] else [last] := by
  have front : ∀ entry ∈ offerings.zipIdx,
      (offerings ++ [last]).take entry.2 = offerings.take entry.2 := by
    intro entry member
    have place : entry.2 < offerings.length := List.snd_lt_of_mem_zipIdx member
    exact List.take_append_of_le_length (Nat.le_of_lt place)
  have kept := List.filter_congr fun entry member =>
    congrArg (fun before : List Offering =>
      decide (entry.1.provider ∉ before.map Offering.provider)) (front entry member)
  rw [firstOccurrences, List.zipIdx_append, List.filter_append, List.map_append, kept,
    firstOccurrences]
  by_cases repeated : last.provider ∈ offerings.map Offering.provider <;> simp [repeated]

theorem firstOfferings_concat (seen : List String) (offerings : List Offering) (last : Offering) :
    firstOfferings seen (offerings ++ [last]) = firstOfferings seen offerings ++
      if last.provider ∈ seen ∨ last.provider ∈ offerings.map Offering.provider then []
      else [last] := by
  induction offerings generalizing seen with
  | nil => simp [firstOfferings]
  | cons first offerings ih =>
      rw [List.cons_append, firstOfferings, firstOfferings]
      by_cases named : first.provider ∈ seen
      · rw [if_pos named, if_pos named, ih]
        congr 2
        grind
      · rw [if_neg named, if_neg named, ih, List.cons_append]
        congr 3
        grind

theorem firstOfferings_eq (offerings : List Offering) :
    firstOfferings [] offerings = firstOccurrences offerings := by
  induction offerings using List.reverseRecOn with
  | nil => rfl
  | append_singleton offerings last ih =>
      rw [firstOfferings_concat, firstOccurrences_concat, ih]
      simp

theorem firstOccurrences_sublist (offerings : List Offering) :
    (firstOccurrences offerings).Sublist offerings := by
  have kept := (List.filter_sublist (l := offerings.zipIdx) (p := fun entry =>
    entry.1.provider ∉ (offerings.take entry.2).map Offering.provider)).map Prod.fst
  rwa [List.zipIdx_map_fst] at kept

theorem nodup_firstOccurrences (offerings : List Offering) :
    ((firstOccurrences offerings).map Offering.provider).Nodup := by
  induction offerings using List.reverseRecOn with
  | nil => exact List.nodup_nil
  | append_singleton offerings last ih =>
      rw [firstOccurrences_concat]
      split
      · simpa using ih
      · rename_i fresh
        rw [List.map_append, List.map_singleton, ← List.concat_eq_append]
        refine List.Nodup.concat (fun named => fresh ?_) ih
        exact ((firstOccurrences_sublist offerings).map Offering.provider).subset named

theorem Model.dedupe_eq (model : Model) :
    model.dedupe = model.withOfferings (firstOccurrences model.offerings) := by
  rw [dedupe, firstOfferings_eq]

/-! ## Models of one identifier -/

/-- The last model with an identifier. -/
def lastModel? (id : String) (models : List Model) : Option Model :=
  (models.filter (·.id = id)).getLast?

theorem lastModel?_concat (id : String) (models : List Model) (last : Model) :
    lastModel? id (models ++ [last]) =
      if last.id = id then some last else lastModel? id models := by
  rw [lastModel?, List.filter_append]
  split <;> simp [lastModel?, *]

theorem lastModel?_eq_none_iff {id : String} {models : List Model} :
    lastModel? id models = none ↔ id ∉ models.map (·.id) := by
  rw [lastModel?, List.getLast?_eq_none_iff, List.filter_eq_nil_iff]
  simp

/-- An update of the known models. -/
inductive CatalogUpdate where
  /-- Know several models. -/
  | register (models : List Model)
  /-- Make a list of models the whole catalog. -/
  | replaceAll (models : List Model)
  /-- Replace the offerings of one model. -/
  | setOfferings (id : String) (offerings : List Offering)

namespace Registry

/-- Carry out an update. -/
def update (registry : Registry) : CatalogUpdate → Registry
  | .register models => registry.register models
  | .replaceAll models => registry.replaceAll models
  | .setOfferings id offerings => registry.setOfferings id offerings

/-! ## Lookups -/

/-- A registry is determined by its lookups. -/
theorem ext_lookup? {left right : Registry}
    (lookups : ∀ id, left.lookup? id = right.lookup? id) : left = right :=
  congrArg Registry.mk (Table.ext_get? lookups)

theorem contains_eq (registry : Registry) (id : String) :
    registry.contains id = (registry.lookup? id).isSome := rfl

theorem lookup?_put (registry : Registry) (model : Model) (id : String) :
    (registry.put model).lookup? id =
      if model.id = id then some model.dedupe else registry.lookup? id :=
  Table.get?_insert _ _ _ _

theorem lookup?_retire (listed : List String) (registry : Registry) (id : String) :
    (registry.retire listed).lookup? id =
      (registry.lookup? id).map fun model =>
        if listed.contains id then model else model.withOfferings [] :=
  Table.get?_map _ _ _

theorem lookup?_register (models : List Model) (registry : Registry) (id : String) :
    (registry.register models).lookup? id =
      ((lastModel? id models).map Model.dedupe).or (registry.lookup? id) := by
  induction models using List.reverseRecOn with
  | nil => rfl
  | append_singleton models last ih =>
      have put : registry.register (models ++ [last]) = (registry.register models).put last :=
        List.foldl_concat ..
      rw [put, lookup?_put, lastModel?_concat, ih]
      split <;> rfl

/-- After a list of models was made the whole catalog, models that it does not list have no
offerings. -/
theorem lookup?_replaceAll (models : List Model) (registry : Registry) (id : String) :
    (registry.replaceAll models).lookup? id =
      ((lastModel? id models).map Model.dedupe).or
        ((registry.lookup? id).map (·.withOfferings [])) := by
  rw [replaceAll, lookup?_register, lookup?_retire]
  cases last : lastModel? id models with
  | some model => rfl
  | none =>
      have unlisted := lastModel?_eq_none_iff.mp last
      simp [unlisted]

/-- Every model stands under its own identifier and has at most one offering of a provider. -/
structure Orderly (registry : Registry) : Prop where
  /-- A model is known by its own identifier. -/
  keyed : ∀ id model, registry.lookup? id = some model → model.id = id
  /-- No provider offers a model twice. -/
  distinct : ∀ id model, registry.lookup? id = some model →
    (model.offerings.map Offering.provider).Nodup

theorem lookup?_setOfferings {registry : Registry} (orderly : registry.Orderly) (id : String)
    (offerings : List Offering) (other : String) :
    (registry.setOfferings id offerings).lookup? other =
      if id = other then
        some (((registry.lookup? id).getD (.named id)).withOfferings offerings).dedupe
      else registry.lookup? other := by
  have own : ((registry.lookup? id).getD (.named id)).id = id := by
    cases known : registry.lookup? id with
    | none => rfl
    | some model => exact orderly.keyed id model known
  rw [setOfferings, lookup?_put]
  change (if ((registry.lookup? id).getD (.named id)).id = other then _ else _) = _
  rw [own]

end Registry

end ProviderRouting
