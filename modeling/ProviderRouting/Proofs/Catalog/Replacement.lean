import Mathlib.Data.Set.Card
import ProviderRouting.Proofs.Catalog.Snapshots

/-!
# Replacing the catalog

When a list of models becomes the whole catalog, the models that it lists are known as it gives
them, and all others lose their offerings and nothing else.
-/

namespace ProviderRouting

/-! ## Models of one identifier in parts of lists -/

theorem lastModel?_append (id : String) (earlier later : List Model) :
    lastModel? id (earlier ++ later) = (lastModel? id later).or (lastModel? id earlier) := by
  rw [lastModel?, List.filter_append, List.getLast?_append]
  rfl

theorem lastModel?_filter (id : String) (keep : String → Bool) (models : List Model) :
    lastModel? id (models.filter fun model => keep model.id) =
      if keep id then lastModel? id models else none := by
  rw [lastModel?, List.filter_filter]
  cases kept : keep id with
  | false =>
      have none : models.filter (fun model => decide (model.id = id) && keep model.id) = [] := by
        refine List.filter_eq_nil_iff.mpr fun model _ both => ?_
        obtain ⟨same, keeps⟩ := Bool.and_eq_true_iff.mp both
        rw [of_decide_eq_true same, kept] at keeps
        exact Bool.false_ne_true keeps
      rw [none]
      rfl
  | true =>
      have same : ∀ model ∈ models,
          (decide (model.id = id) && keep model.id) = decide (model.id = id) := by
        intro model _
        by_cases here : model.id = id
        · simp [here, kept]
        · simp [here]
      rw [List.filter_congr same]
      rfl

theorem lastModel?_map_withOfferings (id : String) (offerings : List Offering)
    (models : List Model) :
    lastModel? id (models.map (·.withOfferings offerings)) =
      (lastModel? id models).map (·.withOfferings offerings) := by
  rw [lastModel?, List.filter_map, List.getLast?_map]
  rfl

namespace Registry

variable {registry : Registry}

theorem lastModel?_all (orderly : registry.Orderly) (id : String) :
    lastModel? id registry.all = registry.lookup? id := by
  have listed_iff (model : Model) :
      model ∈ registry.all.filter (·.id = id) ↔ registry.lookup? id = some model := by
    rw [List.mem_filter]
    constructor
    · rintro ⟨listed, named⟩
      obtain ⟨⟨key, _⟩, entry, rfl⟩ := List.mem_map.mp listed
      have known : registry.lookup? key = some _ := Table.mem_entries_iff.mp entry
      rw [← of_decide_eq_true named, orderly.keyed key _ known]
      exact known
    · intro known
      exact ⟨List.mem_map_of_mem (Table.mem_entries_iff.mpr known),
        decide_eq_true (orderly.keyed id model known)⟩
  cases last : lastModel? id registry.all with
  | some model => exact ((listed_iff model).mp (List.mem_of_getLast? last)).symm
  | none =>
      have empty := List.getLast?_eq_none_iff.mp last
      refine (Option.eq_none_iff_forall_ne_some.mpr fun model known => ?_).symm
      have listed := (listed_iff model).mpr known
      rw [empty] at listed
      exact List.not_mem_nil listed

/-! ## Contents -/

/-- The models of a registry that a list does not name, without their offerings. -/
def emptied (models : List Model) (registry : Registry) : List Model :=
  (registry.all.filter fun model => !(models.map (·.id)).contains model.id).map
    (·.withOfferings [])

/-- To replace the catalog is to register what it empties and then what it lists. -/
theorem replaceAll_eq_register (orderly : registry.Orderly) (models : List Model) :
    registry.replaceAll models = registry.register (registry.emptied models ++ models) := by
  refine ext_lookup? fun id => ?_
  rw [lookup?_replaceAll, lookup?_register, lastModel?_append, emptied,
    lastModel?_map_withOfferings,
    lastModel?_filter id (fun id => !(models.map (·.id)).contains id), lastModel?_all orderly]
  cases last : lastModel? id models with
  | some model => rfl
  | none =>
      have unlisted := lastModel?_eq_none_iff.mp last
      cases registry.lookup? id with
      | none => simp
      | some model => simp [unlisted, Model.dedupe, Model.withOfferings, firstOfferings]

theorem mem_losing_iff {models : List Model} {id : String} :
    CatalogMemory.loses (models.map (·.id)) registry id = true ↔ id ∉ models.map (·.id) ∧
      ∃ model, registry.lookup? id = some model ∧ model.offerings ≠ [] := by
  rw [CatalogMemory.loses, Option.any_eq_true]
  constructor
  · rintro ⟨model, known, spent⟩
    obtain ⟨unlisted, offered⟩ := Bool.and_eq_true_iff.mp spent
    exact ⟨by simpa using unlisted, model, known, by simpa using offered⟩
  · rintro ⟨unlisted, model, known, offered⟩
    exact ⟨model, known, by simpa using ⟨by simpa using unlisted, offered⟩⟩

/-- The models that lose their offerings are counted, each once. -/
theorem emptiedBy_eq_ncard (registry : Registry) (models : List Model) :
    registry.emptiedBy models = Set.ncard {id | id ∉ models.map (·.id) ∧
      ∃ model, registry.lookup? id = some model ∧ model.offerings ≠ []} := by
  let losing := registry.models.names.filter (CatalogMemory.loses (models.map (·.id)) registry)
  have same : {id | id ∉ models.map (·.id) ∧
      ∃ model, registry.lookup? id = some model ∧ model.offerings ≠ []} =
        (losing.toFinset : Set String) := by
    ext id
    rw [Finset.mem_coe, List.mem_toFinset, List.mem_filter, mem_losing_iff, Table.mem_names_iff]
    refine (and_iff_right_of_imp ?_).symm
    rintro ⟨-, model, known, -⟩
    exact Option.isSome_of_eq_some known
  rw [same, Set.ncard_coe_finset,
    List.toFinset_card_of_nodup (registry.models.nodup_names.filter _),
    ← CatalogMemory.countP_loses, List.countP_eq_length_filter]

/-- A registry whose whole catalog became a list of models. -/
structure Replaced (before : Registry) (models : List Model) (after : Registry) : Prop where
  /-- A listed model is as it was listed last, with the first offering of every provider. -/
  listed : ∀ id model, lastModel? id models = some model →
    after.lookup? id = some (model.withOfferings (firstOccurrences model.offerings))
  /-- A model that was known and is not listed lost its offerings and nothing else. -/
  unlisted : ∀ id model, id ∉ models.map (·.id) → before.lookup? id = some model →
    after.lookup? id = some (model.withOfferings [])
  /-- No other models are known. -/
  known : ∀ id, after.contains id = true ↔
    before.contains id = true ∨ id ∈ models.map (·.id)

theorem replaced_replaceAll (registry : Registry) (models : List Model) :
    registry.Replaced models (registry.replaceAll models) := by
  constructor
  · intro id model last
    rw [lookup?_replaceAll, last, Option.map_some, Model.dedupe_eq]
    rfl
  · intro id model unlisted known
    rw [lookup?_replaceAll, lastModel?_eq_none_iff.mpr unlisted, known]
    rfl
  · intro id
    have given : (lastModel? id models).isSome = true ↔ id ∈ models.map (·.id) := by
      rw [Option.isSome_iff_ne_none, ne_eq, lastModel?_eq_none_iff, not_not]
    rw [contains_eq, contains_eq, lookup?_replaceAll, Option.isSome_or, Option.isSome_map,
      Option.isSome_map, Bool.or_eq_true, given, or_comm]

theorem replaceAll_replaceAll (models : List Model) (registry : Registry) :
    (registry.replaceAll models).replaceAll models = registry.replaceAll models := by
  refine ext_lookup? fun id => ?_
  rw [lookup?_replaceAll, lookup?_replaceAll]
  cases lastModel? id models with
  | some model => rfl
  | none => cases registry.lookup? id <;> rfl

theorem emptiedBy_replaceAll (models : List Model) (registry : Registry) :
    (registry.replaceAll models).emptiedBy models = 0 := by
  have none : {id | id ∉ models.map (·.id) ∧ ∃ model,
      (registry.replaceAll models).lookup? id = some model ∧ model.offerings ≠ []} = ∅ := by
    refine Set.eq_empty_of_forall_notMem ?_
    rintro id ⟨unlisted, model, known, offered⟩
    rw [lookup?_replaceAll, lastModel?_eq_none_iff.mpr unlisted, Option.map_none,
      Option.none_or] at known
    obtain ⟨held, -, rfl⟩ := Option.map_eq_some_iff.mp known
    exact offered rfl
  rw [emptiedBy_eq_ncard, none, Set.ncard_empty]

/-- When a list of models becomes the whole catalog, every model that it lists is as it was listed
last, with the first offering of every provider; every other known model loses its offerings and
nothing else; no further model is known; and the answer counts the models that lost some.  Once
more the list changes nothing and counts none.  The same comes of registering, in one list, what is
emptied and then what is listed.  Who holds a snapshot sees the registry as it was, whatever
updates follow. -/
theorem replacement_law (updates : List CatalogUpdate) (models : List Model) :
    let before := updates.foldl update empty
    let after := before.replaceAll models
    let memory := updates.foldl CatalogMemory.update .fresh
    let replaced := memory.replaceAll models
    before.Replaced models after ∧
    memory.registry = before ∧ replaced.1.registry = after ∧
    replaced.2 = before.emptiedBy models ∧
    before.emptiedBy models = Set.ncard {id | id ∉ models.map (·.id) ∧
      ∃ model, before.lookup? id = some model ∧ model.offerings ≠ []} ∧
    after.replaceAll models = after ∧ after.emptiedBy models = 0 ∧
    after = before.register (before.emptied models ++ models) ∧
    ∀ later : List CatalogUpdate,
      (later.foldl CatalogMemory.update memory).registryAt memory.current = before := by
  intro before after memory replaced
  have shown : CatalogMemory.Publishes _ before memory :=
    CatalogMemory.sound_fresh.updates updates
  have published := shown.sound.replaceAll models
  have counted := shown.sound.count_replaceAll models
  rw [shown.registry_eq] at published counted
  refine ⟨replaced_replaceAll before models, shown.registry_eq, published.registry_eq, counted,
    emptiedBy_eq_ncard before models, replaceAll_replaceAll models before,
    emptiedBy_replaceAll models before,
    replaceAll_eq_register (orderly_empty.updates updates) models, fun later => ?_⟩
  have kept := (shown.sound.updates later).keeps
  rw [kept.registryAt_eq shown.sound shown.sound.current_lt]
  exact shown.registry_eq

end Registry

end ProviderRouting
