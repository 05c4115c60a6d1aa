import Mathlib.Algebra.BigOperators.Finprod
import ProviderRouting.Proofs.Catalog.Updates
import ProviderRouting.Proofs.Plan.Planning

/-!
# Contents of a registry

What a registry holds after a course of updates is told by the updates alone.  Of a model it keeps
the offerings that were given last, each provider's first, and no offerings once a later catalog
omits the model; but it never forgets one.
-/

namespace ProviderRouting

namespace CatalogUpdate

/-- The offerings that an update gives to a model. -/
def given? (id : String) : CatalogUpdate → Option (List Offering)
  | register models => (lastModel? id models).map (·.offerings)
  | replaceAll models => (lastModel? id models).map (·.offerings)
  | setOfferings other offerings => if other = id then some offerings else none

/-- Whether an update makes a catalog the whole one that does not list a model. -/
def omits (id : String) : CatalogUpdate → Bool
  | register _ => false
  | replaceAll models => !(models.map (·.id)).contains id
  | setOfferings _ _ => false

end CatalogUpdate

namespace Registry

variable {registry : Registry} {id : String}

/-! ## Order -/

theorem orderly_empty : empty.Orderly := ⟨nofun, nofun⟩

theorem Orderly.put (orderly : registry.Orderly) (model : Model) :
    (registry.put model).Orderly := by
  constructor
  · intro id stored known
    rw [lookup?_put] at known
    split at known
    · rename_i here
      obtain rfl := Option.some.inj known
      exact here
    · exact orderly.keyed id stored known
  · intro id stored known
    rw [lookup?_put] at known
    split at known
    · obtain rfl := Option.some.inj known
      rw [Model.dedupe_eq]
      exact nodup_firstOccurrences model.offerings
    · exact orderly.distinct id stored known

theorem Orderly.register (orderly : registry.Orderly) (models : List Model) :
    (registry.register models).Orderly := by
  induction models generalizing registry with
  | nil => exact orderly
  | cons first models ih => exact ih (orderly.put first)

theorem Orderly.retire (orderly : registry.Orderly) (listed : List String) :
    (registry.retire listed).Orderly := by
  constructor
  all_goals
    intro id stored known
    rw [lookup?_retire] at known
    obtain ⟨model, held, rfl⟩ := Option.map_eq_some_iff.mp known
  · split
    · exact orderly.keyed id model held
    · exact orderly.keyed id model held
  · split
    · exact orderly.distinct id model held
    · exact List.nodup_nil

theorem Orderly.update (orderly : registry.Orderly) (update : CatalogUpdate) :
    (registry.update update).Orderly := by
  cases update with
  | register models => exact orderly.register models
  | replaceAll models => exact (orderly.retire _).register models
  | setOfferings id offerings => exact orderly.put _

theorem Orderly.updates (orderly : registry.Orderly) (updates : List CatalogUpdate) :
    (updates.foldl Registry.update registry).Orderly := by
  induction updates generalizing registry with
  | nil => exact orderly
  | cons first updates ih => exact ih (orderly.update first)

/-! ## Offerings -/

/-- The offerings of a known model. -/
def offerings? (registry : Registry) (id : String) : Option (List Offering) :=
  (registry.lookup? id).map (·.offerings)

theorem isSome_offerings? : (registry.offerings? id).isSome = registry.contains id :=
  Option.isSome_map

/-- What an update gives counts; otherwise offerings stay unless the update omits the model. -/
theorem offerings?_update (orderly : registry.Orderly) (update : CatalogUpdate) :
    (registry.update update).offerings? id =
      ((update.given? id).map firstOccurrences).or
        ((registry.offerings? id).map fun offerings =>
          if update.omits id then [] else offerings) := by
  cases update with
  | register models =>
      rw [offerings?, Registry.update, lookup?_register]
      cases last : lastModel? id models with
      | none =>
          simp [CatalogUpdate.given?, CatalogUpdate.omits, last, offerings?, Function.comp_def]
      | some model =>
          simp [CatalogUpdate.given?, last, Model.dedupe_eq, Model.withOfferings]
  | replaceAll models =>
      rw [offerings?, Registry.update, lookup?_replaceAll]
      cases last : lastModel? id models with
      | none =>
          have unlisted := lastModel?_eq_none_iff.mp last
          simp [CatalogUpdate.given?, CatalogUpdate.omits, last, offerings?, unlisted,
            Model.withOfferings, Function.comp_def]
      | some model =>
          simp [CatalogUpdate.given?, last, Model.dedupe_eq, Model.withOfferings]
  | setOfferings other offerings =>
      rw [offerings?, Registry.update, lookup?_setOfferings orderly]
      by_cases here : other = id
      · simp [CatalogUpdate.given?, here, Model.dedupe_eq, Model.withOfferings]
      · simp [CatalogUpdate.given?, CatalogUpdate.omits, here, offerings?, Function.comp_def]

/-- Offerings that no later update gives anew stay unless a later update omits the model. -/
theorem offerings?_updates_of_ungiven (orderly : registry.Orderly) (later : List CatalogUpdate)
    (ungiven : ∀ update ∈ later, update.given? id = none) :
    (later.foldl update registry).offerings? id = (registry.offerings? id).map fun offerings =>
      if later.any (·.omits id) then [] else offerings := by
  induction later using List.reverseRecOn with
  | nil => simp
  | append_singleton later last ih =>
      obtain ⟨before, ungivenLast⟩ := List.forall_mem_append.mp ungiven
      have untold : last.given? id = none := ungivenLast last List.mem_cons_self
      rw [List.foldl_concat, offerings?_update (orderly.updates later), untold, ih before]
      cases omitted : last.omits id <;> simp [omitted, Function.comp_def]

/-- A model is known once an update gave it, and ever after. -/
theorem contains_updates (orderly : registry.Orderly) (updates : List CatalogUpdate) :
    (updates.foldl update registry).contains id = true ↔
      registry.contains id = true ∨ ∃ update ∈ updates, (update.given? id).isSome := by
  induction updates using List.reverseRecOn with
  | nil => simp
  | append_singleton updates last ih =>
      rw [List.foldl_concat, ← isSome_offerings?, offerings?_update (orderly.updates updates),
        Option.isSome_or, Option.isSome_map, Option.isSome_map, isSome_offerings?,
        Bool.or_eq_true, ih]
      simp only [List.mem_append, List.mem_singleton]
      grind

/-! ## Sums -/

theorem mem_providerNames_iff {name : String} :
    name ∈ registry.providerNames ↔
      ∃ id model, registry.lookup? id = some model ∧
        name ∈ model.offerings.map Offering.provider := by
  rw [providerNames, mem_distinctNames, List.mem_flatMap]
  constructor
  · rintro ⟨model, listed, named⟩
    obtain ⟨⟨id, _⟩, entry, rfl⟩ := List.mem_map.mp listed
    exact ⟨id, _, Table.mem_entries_iff.mp entry, named⟩
  · rintro ⟨id, model, known, named⟩
    exact ⟨model, List.mem_map_of_mem (Table.mem_entries_iff.mpr known), named⟩

theorem offerings_eq_finsum (registry : Registry) :
    registry.offerings = ∑ᶠ id, ((registry.lookup? id).elim 0 (·.offerings.length)) := by
  have support : Function.support (fun id => (registry.lookup? id).elim 0 (·.offerings.length)) ⊆
      registry.models.names.toFinset := by
    intro id counted
    rw [Finset.mem_coe, List.mem_toFinset, Table.mem_names_iff]
    refine Option.isSome_iff_ne_none.mpr fun unknown => counted ?_
    exact congrArg (fun held : Option Model => held.elim 0 (·.offerings.length)) unknown
  rw [finsum_eq_sum_of_support_subset _ support, List.sum_toFinset _ registry.models.nodup_names]
  rw [offerings, all, Table.values, Table.names, List.map_map, List.map_map]
  refine congrArg (List.foldr (· + ·) 0) (List.map_congr_left fun entry listed => ?_)
  have known : registry.lookup? entry.1 = some entry.2 := Table.mem_entries_iff.mp listed
  simp [known]

/-! ## Repetition -/

theorem register_register (models : List Model) (registry : Registry) :
    (registry.register models).register models = registry.register models := by
  refine ext_lookup? fun id => ?_
  rw [lookup?_register, lookup?_register]
  cases lastModel? id models <;> rfl

/-- What a registry without models holds after updates. -/
structure Holds (updates : List CatalogUpdate) (registry : Registry) : Prop where
  /-- Every model stands under its own identifier, with distinct providers. -/
  orderly : registry.Orderly
  /-- The known models are those that some update gave. -/
  known : ∀ id, registry.contains id = true ↔
    ∃ update ∈ updates, (update.given? id).isSome
  /-- The offerings are those given last, of every provider the first, or none if a later catalog
  omitted the model. -/
  given : ∀ id earlier update later offerings, updates = earlier ++ update :: later →
    update.given? id = some offerings → (∀ other ∈ later, other.given? id = none) →
      registry.offerings? id =
        some (if later.any (·.omits id) then [] else firstOccurrences offerings)

theorem holds_updates (updates : List CatalogUpdate) :
    (updates.foldl update empty).Holds updates where
  orderly := orderly_empty.updates updates
  known id := by
    rw [contains_updates orderly_empty]
    simp [empty, contains, Table.contains]
  given := by
    rintro id earlier update later offerings rfl gives ungiven
    have before := orderly_empty.updates earlier
    rw [List.foldl_append, List.foldl_cons,
      offerings?_updates_of_ungiven (before.update update) later ungiven,
      offerings?_update before, gives]
    rfl

end Registry

/-- A model that is known is never answered as unknown. -/
theorem PlanningView.plan_of_known {view : PlanningView} {request : PlanRequest}
    (known : view.registry.contains request.model = true) :
    view.plan request = .error (.noProviders request.model) ∨
      ∃ attempts, view.plan request = .ok attempts := by
  obtain ⟨model, held⟩ := Option.isSome_iff_exists.mp known
  have held : view.registry.lookup? request.model = some model := held
  rw [plan, held]
  dsimp only
  split
  · exact .inl rfl
  · exact .inr ⟨_, rfl⟩

namespace Registry

/-- After any updates a registry holds what the updates gave last, each model under its own
identifier and with distinct providers.  Of the models with one identifier in a list the last
counts, and to register a list again changes nothing.  A known model is never answered as unknown,
whatever updates follow.  The provider names are those of all offerings, in strict order, and the
offerings are counted model by model. -/
theorem contents_law (updates : List CatalogUpdate) :
    let registry := updates.foldl update empty
    registry.Holds updates ∧
    (∀ models id model, lastModel? id models = some model →
      let kept := model.withOfferings (firstOccurrences model.offerings)
      (registry.register models).lookup? id = some kept ∧
        (registry.replaceAll models).lookup? id = some kept) ∧
    (∀ models, (registry.register models).register models = registry.register models) ∧
    (∀ (later : List CatalogUpdate) (engine : Engine) (request : PlanRequest),
      registry.contains request.model = true →
        let answer := ((engine.onRegistry fun _ => later.foldl update registry).plan request).2
        answer = .error (.noProviders request.model) ∨ ∃ attempts, answer = .ok attempts) ∧
    registry.providerNames.Pairwise (· < ·) ∧
    (∀ name, name ∈ registry.providerNames ↔
      ∃ id model, registry.lookup? id = some model ∧
        name ∈ model.offerings.map Offering.provider) ∧
    registry.offerings = ∑ᶠ id, ((registry.lookup? id).elim 0 (·.offerings.length)) := by
  intro registry
  have orderly : registry.Orderly := orderly_empty.updates updates
  refine ⟨holds_updates updates, ?_, fun models => register_register models registry, ?_,
    distinctNames_sorted _, fun name => mem_providerNames_iff, offerings_eq_finsum registry⟩
  · intro models id model last kept
    rw [lookup?_register, lookup?_replaceAll, last, Option.map_some, Model.dedupe_eq]
    exact ⟨rfl, rfl⟩
  · intro later engine request known answer
    have still : (later.foldl update registry).contains request.model = true :=
      (contains_updates orderly later).mpr (.inl known)
    have answered : answer = PlanningView.plan _ request :=
      congrArg Prod.snd (Engine.plan_eq _ request)
    rw [answered]
    exact PlanningView.plan_of_known still

end Registry

end ProviderRouting
