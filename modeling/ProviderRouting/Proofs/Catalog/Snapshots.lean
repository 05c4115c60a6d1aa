import Mathlib.Data.List.GetD
import ProviderRouting.Proofs.Catalog.Contents

/-!
# Snapshots

In memory a registry is a map from identifiers to models.  Readers share maps and models, so a
writer works on a copy of the current map, with new models, and then makes the copy the current
map.  Writers only add to what readers can see, and they follow the registry without a memory.
-/

namespace ProviderRouting

/-- Models and maps in memory, each at a place. -/
structure CatalogMemory where
  /-- The models. -/
  models : List Model
  /-- The maps, from identifiers to places of models. -/
  maps : List (Table Nat)
  /-- The place of the map that new readers see. -/
  current : Nat

namespace CatalogMemory

variable {memory : CatalogMemory} {place : Nat}

/-- The memory of a registry that knows no model. -/
def fresh : CatalogMemory := ⟨[], [.empty], 0⟩

/-- The map at a place. -/
def mapAt (memory : CatalogMemory) (place : Nat) : Table Nat := memory.maps.getD place .empty

/-- What a reader sees who holds the map at a place. -/
def registryAt (memory : CatalogMemory) (place : Nat) : Registry :=
  ⟨(memory.mapAt place).map fun _ model => memory.models.getD model default⟩

/-- What a new reader sees. -/
def registry (memory : CatalogMemory) : Registry := memory.registryAt memory.current

/-! ## Writers -/

/-- Copy the current map to a new place. -/
def copy (memory : CatalogMemory) : CatalogMemory :=
  { memory with maps := memory.maps ++ [memory.mapAt memory.current] }

/-- Put a model at a new place and let the map at a place lead to it. -/
def write (place : Nat) (id : String) (model : Model) (memory : CatalogMemory) : CatalogMemory :=
  { memory with
    models := memory.models ++ [model]
    maps := memory.maps.set place ((memory.mapAt place).insert id memory.models.length) }

/-- Make the map at a place the current one. -/
def publish (place : Nat) (memory : CatalogMemory) : CatalogMemory :=
  { memory with current := place }

/-- Write several models into a map. -/
def writeAll (place : Nat) (models : List Model) (memory : CatalogMemory) : CatalogMemory :=
  models.foldl (fun memory model => memory.write place model.id model) memory

/-- Take the offerings of one model of a map, and count if that was needed. -/
def retireOne (listed : List String) (place : Nat) (state : CatalogMemory × Nat) (id : String) :
    CatalogMemory × Nat :=
  match (state.1.registryAt place).lookup? id with
  | none => state
  | some model =>
    if !listed.contains id && !model.offerings.isEmpty then
      (state.1.write place id (model.withOfferings []), state.2 + 1)
    else state

/-- Take the offerings of the models of a map that a catalog does not list, and count them. -/
def retire (listed : List String) (place : Nat) (memory : CatalogMemory) : CatalogMemory × Nat :=
  (memory.mapAt place).names.foldl (retireOne listed place) (memory, 0)

/-- Know several models. -/
def register (models : List Model) (memory : CatalogMemory) : CatalogMemory :=
  if models.isEmpty then memory
  else
    let draft := memory.maps.length
    (memory.copy.writeAll draft (models.map Model.dedupe)).publish draft

/-- Make a list of models the whole catalog; the answer is how many models lost offerings. -/
def replaceAll (models : List Model) (memory : CatalogMemory) : CatalogMemory × Nat :=
  let draft := memory.maps.length
  let (retired, count) := memory.copy.retire (models.map (·.id)) draft
  ((retired.writeAll draft (models.map Model.dedupe)).publish draft, count)

/-- Replace the offerings of one model, which becomes known if it was not. -/
def setOfferings (id : String) (offerings : List Offering) (memory : CatalogMemory) :
    CatalogMemory :=
  memory.register [((memory.registry.lookup? id).getD (.named id)).withOfferings offerings]

/-- Carry out an update. -/
def update (memory : CatalogMemory) : CatalogUpdate → CatalogMemory
  | .register models => memory.register models
  | .replaceAll models => (memory.replaceAll models).1
  | .setOfferings id offerings => memory.setOfferings id offerings

/-! ## Readers -/

/-- Maps lead to models, and there is a current map. -/
structure Sound (memory : CatalogMemory) : Prop where
  /-- There is a current map. -/
  current_lt : memory.current < memory.maps.length
  /-- Every place that a map names is the place of a model. -/
  lt_models : ∀ map ∈ memory.maps, ∀ id model, map.get? id = some model →
    model < memory.models.length

/-- Nothing that a reader may hold changed. -/
structure Keeps (before after : CatalogMemory) : Prop where
  /-- The models are as they were. -/
  models : before.models <+: after.models
  /-- The maps are as they were. -/
  maps : before.maps <+: after.maps

theorem Keeps.refl (memory : CatalogMemory) : memory.Keeps memory :=
  ⟨List.prefix_refl _, List.prefix_refl _⟩

theorem Keeps.trans {before between after : CatalogMemory} (first : before.Keeps between)
    (second : between.Keeps after) : before.Keeps after :=
  ⟨first.models.trans second.models, first.maps.trans second.maps⟩

theorem lookup?_registryAt (memory : CatalogMemory) (place : Nat) (id : String) :
    (memory.registryAt place).lookup? id =
      ((memory.mapAt place).get? id).map fun model => memory.models.getD model default :=
  Table.get?_map _ _ _

theorem mapAt_mem (inside : place < memory.maps.length) : memory.mapAt place ∈ memory.maps := by
  rw [mapAt, List.getD_eq_getElem _ _ inside]
  exact List.getElem_mem inside

/-- Readers of a map see what they saw. -/
theorem Keeps.registryAt_eq {before after : CatalogMemory} (keeps : before.Keeps after)
    (sound : before.Sound) (inside : place < before.maps.length) :
    after.registryAt place = before.registryAt place := by
  have sameMap : after.mapAt place = before.mapAt place := by
    obtain ⟨later, grown⟩ := keeps.maps
    rw [mapAt, mapAt, ← grown, List.getD_append _ _ _ _ inside]
  refine Registry.ext_lookup? fun id => ?_
  rw [lookup?_registryAt, lookup?_registryAt, sameMap]
  refine Option.map_congr fun model named => ?_
  have there := sound.lt_models _ (mapAt_mem inside) id model named
  obtain ⟨later, grown⟩ := keeps.models
  rw [← grown, List.getD_append _ _ _ _ there]

/-! ## One write -/

theorem length_maps_write (id : String) (model : Model) :
    (memory.write place id model).maps.length = memory.maps.length :=
  List.length_set

theorem Sound.write (sound : memory.Sound) (inside : place < memory.maps.length) (id : String)
    (model : Model) : (memory.write place id model).Sound := by
  constructor
  · rw [length_maps_write]
    exact sound.current_lt
  · intro map member other held named
    have grown : (memory.write place id model).models.length = memory.models.length + 1 :=
      List.length_append
    have earlier (known : Table Nat) (listed : known ∈ memory.maps)
        (leads : known.get? other = some held) :
        held < (memory.write place id model).models.length := by
      have := sound.lt_models known listed other held leads
      omega
    rcases List.mem_or_eq_of_mem_set member with listed | rfl
    · exact earlier map listed named
    · rw [Table.get?_insert] at named
      split at named
      · obtain rfl := Option.some.inj named
        omega
      · exact earlier _ (mapAt_mem inside) named

/-- A write to a map that no reader holds yet. -/
theorem Keeps.write {before : CatalogMemory} (keeps : before.Keeps memory)
    (unseen : before.maps.length ≤ place) (id : String) (model : Model) :
    before.Keeps (memory.write place id model) := by
  refine ⟨keeps.models.trans (List.prefix_append _ _), ?_⟩
  obtain ⟨drafts, grown⟩ := keeps.maps
  rw [CatalogMemory.write, ← grown, List.set_append_right _ _ unseen]
  exact List.prefix_append _ _

theorem lookup?_write (sound : memory.Sound) (inside : place < memory.maps.length) (id : String)
    (model : Model) (other : String) :
    ((memory.write place id model).registryAt place).lookup? other =
      if id = other then some model else (memory.registryAt place).lookup? other := by
  have written : (memory.write place id model).mapAt place =
      (memory.mapAt place).insert id memory.models.length := by
    rw [mapAt, write, List.getD_eq_getElem _ _ (by simpa using inside), List.getElem_set_self]
  rw [lookup?_registryAt, lookup?_registryAt, written, Table.get?_insert]
  split
  · simp [write]
  · refine Option.map_congr fun held named => ?_
    exact List.getD_append _ _ _ _ (sound.lt_models _ (mapAt_mem inside) other held named)

/-! ## Drafts -/

/-- A map at a place that no reader holds, in a memory that grew. -/
structure Drafts (before : CatalogMemory) (place : Nat) (memory : CatalogMemory) : Prop where
  /-- The memory is sound. -/
  sound : memory.Sound
  /-- There is a map at the place. -/
  inside : place < memory.maps.length
  /-- Readers see what they saw. -/
  keeps : before.Keeps memory
  /-- The place is a new one. -/
  unseen : before.maps.length ≤ place

variable {before : CatalogMemory}

theorem Sound.drafts_copy (sound : memory.Sound) :
    memory.Drafts memory.maps.length memory.copy := by
  have grown : memory.copy.maps.length = memory.maps.length + 1 := List.length_append
  have current := sound.current_lt
  refine ⟨⟨?_, ?_⟩, ?_, ⟨List.prefix_refl _, List.prefix_append _ _⟩, Nat.le_refl _⟩
  · rw [grown]
    exact Nat.lt_succ_of_lt current
  · intro map member
    rcases List.mem_append.mp member with listed | copied
    · exact sound.lt_models map listed
    · obtain rfl := List.mem_singleton.mp copied
      exact sound.lt_models _ (mapAt_mem current)
  · omega

theorem registryAt_copy (memory : CatalogMemory) :
    memory.copy.registryAt memory.maps.length = memory.registry := by
  have copied : memory.copy.mapAt memory.maps.length = memory.mapAt memory.current := by
    simp [mapAt, copy]
  rw [registryAt, copied]
  rfl

theorem Drafts.write (drafts : before.Drafts place memory) (id : String) (model : Model) :
    before.Drafts place (memory.write place id model) where
  sound := drafts.sound.write drafts.inside id model
  inside := by
    rw [length_maps_write]
    exact drafts.inside
  keeps := drafts.keeps.write drafts.unseen id model
  unseen := drafts.unseen

theorem Drafts.writeAll (drafts : before.Drafts place memory) (models : List Model) :
    before.Drafts place (memory.writeAll place models) := by
  induction models generalizing memory with
  | nil => exact drafts
  | cons first models ih => exact ih (drafts.write first.id first)

theorem Drafts.registryAt_writeAll (drafts : before.Drafts place memory) (models : List Model) :
    (memory.writeAll place (models.map Model.dedupe)).registryAt place =
      (memory.registryAt place).register models := by
  induction models generalizing memory with
  | nil => rfl
  | cons first models ih =>
      have written : (memory.write place first.dedupe.id first.dedupe).registryAt place =
          (memory.registryAt place).put first := by
        refine Registry.ext_lookup? fun id => ?_
        rw [lookup?_write drafts.sound drafts.inside, Registry.lookup?_put]
        rfl
      rw [Registry.register, List.foldl_cons, ← written]
      exact ih (drafts.write _ _)

/-! ## Retiring -/

/-- Whether a model is to lose offerings. -/
def loses (listed : List String) (registry : Registry) (id : String) : Bool :=
  (registry.lookup? id).any fun model => !listed.contains id && !model.offerings.isEmpty

/-- A model as a catalog leaves it that lists certain models. -/
def retiredModel (listed : List String) (id : String) (model : Model) : Model :=
  if listed.contains id then model else model.withOfferings []

theorem retiredModel_of_spared {listed : List String} {id : String} {model : Model}
    (spared : (!listed.contains id && !model.offerings.isEmpty) = false) :
    retiredModel listed id model = model := by
  rw [retiredModel]
  split
  · rfl
  · rename_i unlisted
    have unlisted : listed.contains id = false := Bool.not_eq_true _ ▸ unlisted
    have empty : model.offerings = [] := by
      rw [unlisted] at spared
      simpa using spared
    rw [Model.withOfferings, ← empty]

variable {listed names : List String} {registry : Registry} {state : CatalogMemory × Nat}
  {id : String}

theorem retireOne_of_loses {model : Model}
    (known : (state.1.registryAt place).lookup? id = some model)
    (loses : (!listed.contains id && !model.offerings.isEmpty) = true) :
    retireOne listed place state id =
      (state.1.write place id (retiredModel listed id model), state.2 + 1) := by
  have unlisted : listed.contains id = false := by
    simpa using (Bool.and_eq_true_iff.mp loses).1
  rw [retireOne, known]
  dsimp only
  rw [if_pos loses, retiredModel, unlisted]
  rfl

theorem retireOne_of_keeps
    (keeps : loses listed (state.1.registryAt place) id = false) :
    retireOne listed place state id = state := by
  rw [retireOne]
  cases known : (state.1.registryAt place).lookup? id with
  | none => rfl
  | some model =>
      have spared : (!listed.contains id && !model.offerings.isEmpty) = false := by
        simpa only [loses, known, Option.any_some] using keeps
      dsimp only
      rw [if_neg (Bool.not_eq_true _ ▸ spared)]

/-- Some models of a draft were retired. -/
structure Retired (listed : List String) (before : CatalogMemory) (place : Nat)
    (registry : Registry) (names : List String) (state : CatalogMemory × Nat) : Prop where
  /-- The draft is not seen. -/
  drafts : before.Drafts place state.1
  /-- Those models are as the catalog leaves them, the others as they were. -/
  lookup?_eq : ∀ id, (state.1.registryAt place).lookup? id =
    (registry.lookup? id).map fun model =>
      if id ∈ names then retiredModel listed id model else model
  /-- Those that lost offerings are counted. -/
  count_eq : state.2 = names.countP (loses listed registry)

theorem Retired.next (retired : Retired listed before place registry names state)
    (fresh : id ∉ names) :
    Retired listed before place registry (names ++ [id]) (retireOne listed place state id) := by
  have here : (state.1.registryAt place).lookup? id = registry.lookup? id := by
    simp [retired.lookup?_eq, fresh]
  have counted : (names ++ [id]).countP (loses listed registry) =
      state.2 + if loses listed registry id then 1 else 0 := by
    rw [List.countP_append, List.countP_singleton, retired.count_eq]
  cases losing : loses listed registry id with
  | false =>
      have same : loses listed (state.1.registryAt place) id = false := by
        rw [loses, here]
        exact losing
      rw [retireOne_of_keeps same]
      refine ⟨retired.drafts, fun other => ?_, ?_⟩
      · rw [retired.lookup?_eq]
        refine Option.map_congr fun model held => ?_
        by_cases this : other = id
        · subst this
          have spared : (!listed.contains other && !model.offerings.isEmpty) = false := by
            simpa only [loses, held, Option.any_some] using losing
          simp [fresh, retiredModel_of_spared spared]
        · simp [this]
      · rw [counted, losing]
        rfl
  | true =>
      obtain ⟨model, known, spent⟩ := (Option.any_eq_true _ _).mp losing
      rw [retireOne_of_loses (here.trans known) spent]
      refine ⟨retired.drafts.write id _, fun other => ?_, ?_⟩
      · rw [lookup?_write retired.drafts.sound retired.drafts.inside]
        split
        · rename_i this
          subst this
          simp [known]
        · rename_i apart
          rw [retired.lookup?_eq]
          simp [Ne.symm apart]
      · rw [counted, losing]
        rfl

theorem retired_foldl (drafts : before.Drafts place memory) (listed : List String)
    (distinct : names.Nodup) :
    Retired listed before place (memory.registryAt place) names
      (names.foldl (retireOne listed place) (memory, 0)) := by
  induction names using List.reverseRecOn with
  | nil => exact ⟨drafts, fun id => by simp, rfl⟩
  | append_singleton names last ih =>
      obtain ⟨fresh, earlier⟩ := (List.nodup_concat names last).mp (by simpa using distinct)
      rw [List.foldl_concat]
      exact (ih earlier).next fresh

/-- All models of a draft are retired, and those that lose offerings are counted. -/
theorem Drafts.retire (drafts : before.Drafts place memory) (listed : List String) :
    before.Drafts place (memory.retire listed place).1 ∧
      (memory.retire listed place).1.registryAt place = (memory.registryAt place).retire listed ∧
      (memory.retire listed place).2 =
        (memory.mapAt place).names.countP (loses listed (memory.registryAt place)) := by
  have retired := retired_foldl drafts listed (memory.mapAt place).nodup_names
  refine ⟨retired.drafts, Registry.ext_lookup? fun id => ?_, retired.count_eq⟩
  rw [CatalogMemory.retire, retired.lookup?_eq, Registry.lookup?_retire]
  refine Option.map_congr fun model held => ?_
  have named : id ∈ (memory.mapAt place).names := by
    rw [Table.mem_names_iff]
    rw [lookup?_registryAt] at held
    obtain ⟨_, named, -⟩ := Option.map_eq_some_iff.mp held
    exact Option.isSome_of_eq_some named
  rw [if_pos named, retiredModel]

theorem countP_loses (registry : Registry) (models : List Model) :
    registry.models.names.countP (loses (models.map (·.id)) registry) =
      registry.emptiedBy models := by
  rw [Table.names, List.countP_map, Registry.emptiedBy]
  refine List.countP_congr fun entry listed => ?_
  have known : registry.lookup? entry.1 = some entry.2 := Table.mem_entries_iff.mp listed
  simp [loses, known]

/-! ## Whole updates -/

/-- A writer made a registry the one that new readers see. -/
structure Publishes (before : CatalogMemory) (registry : Registry) (after : CatalogMemory) :
    Prop where
  /-- The memory is sound. -/
  sound : after.Sound
  /-- Readers see what they saw. -/
  keeps : before.Keeps after
  /-- New readers see the registry. -/
  registry_eq : after.registry = registry

theorem Drafts.publish (drafts : before.Drafts place memory) :
    before.Publishes (memory.registryAt place) (memory.publish place) :=
  ⟨⟨drafts.inside, drafts.sound.lt_models⟩, ⟨drafts.keeps.models, drafts.keeps.maps⟩, rfl⟩

theorem Sound.register (sound : memory.Sound) (models : List Model) :
    memory.Publishes (memory.registry.register models) (memory.register models) := by
  rw [CatalogMemory.register]
  split
  · rename_i none
    obtain rfl := List.isEmpty_iff.mp none
    exact ⟨sound, Keeps.refl memory, rfl⟩
  · have written := sound.drafts_copy.registryAt_writeAll models
    rw [registryAt_copy] at written
    rw [← written]
    exact (sound.drafts_copy.writeAll _).publish

theorem Sound.replaceAll (sound : memory.Sound) (models : List Model) :
    memory.Publishes (memory.registry.replaceAll models) (memory.replaceAll models).1 := by
  obtain ⟨drafts, retired, -⟩ := sound.drafts_copy.retire (models.map (·.id))
  have written := drafts.registryAt_writeAll models
  rw [retired, registryAt_copy] at written
  rw [Registry.replaceAll, ← written]
  exact (drafts.writeAll _).publish

/-- The answer counts the models that lose offerings. -/
theorem Sound.count_replaceAll (sound : memory.Sound) (models : List Model) :
    (memory.replaceAll models).2 = memory.registry.emptiedBy models := by
  obtain ⟨-, -, counted⟩ := sound.drafts_copy.retire (models.map (·.id))
  have names : (memory.copy.mapAt memory.maps.length).names =
      (memory.copy.registryAt memory.maps.length).models.names :=
    (Table.names_map _ _).symm
  rw [names, registryAt_copy] at counted
  exact counted.trans (countP_loses memory.registry models)

theorem Sound.update (sound : memory.Sound) (update : CatalogUpdate) :
    memory.Publishes (memory.registry.update update) (memory.update update) := by
  cases update with
  | register models => exact sound.register models
  | replaceAll models => exact sound.replaceAll models
  | setOfferings id offerings => exact sound.register [_]

theorem sound_fresh : fresh.Sound := by
  refine ⟨Nat.one_pos, fun map member id model named => ?_⟩
  obtain rfl := List.mem_singleton.mp member
  exact absurd named nofun

theorem Sound.updates (sound : memory.Sound) (updates : List CatalogUpdate) :
    memory.Publishes (updates.foldl Registry.update memory.registry)
      (updates.foldl CatalogMemory.update memory) := by
  induction updates using List.reverseRecOn with
  | nil => exact ⟨sound, Keeps.refl memory, rfl⟩
  | append_singleton updates last ih =>
      have published := ih.sound.update last
      rw [List.foldl_concat, List.foldl_concat, ← ih.registry_eq]
      exact ⟨published.sound, ih.keeps.trans published.keeps, published.registry_eq⟩

end CatalogMemory

end ProviderRouting
