import Mathlib.Data.List.Forall2
import ProviderRouting.Proofs.Catalog.Updates
import ProviderRouting.Proofs.Plan.Planning
import ProviderRouting.Proofs.Tables

/-!
# Plans do not depend on the order of a catalog

Candidates are compared by a lawful order that tells different providers apart.  Offerings of
distinct providers are therefore ranked in one way only, in whatever order the catalog lists them,
and the answer to a request does not depend on that order.
-/

namespace ProviderRouting

namespace Candidate

/-! ## The order of candidates -/

theorem compareKeys_swap (lefts rights : List Int) :
    compareKeys lefts rights = (compareKeys rights lefts).swap := by
  induction lefts generalizing rights with
  | nil => cases rights <;> rfl
  | cons left lefts ih =>
      cases rights with
      | nil => rfl
      | cons right rights =>
          rw [compareKeys, compareKeys, Ordering.swap_then, ← ih, ← Std.OrientedOrd.eq_swap]

theorem compare_swap (left right : Candidate) :
    compare left right = (compare right left).swap := by
  rw [compare, compare, Ordering.swap_then, ← compareKeys_swap, ← Std.OrientedOrd.eq_swap]

theorem compare_isLE_iff (left right : Candidate) :
    (compare left right).isLE = true ↔ left.key ≤ right.key := by
  rw [← precedes_iff, precedes, bne_iff_ne, Ordering.isLE_iff_ne_gt]

/-- Comparison answers for any two candidates, alike from both sides, and along chains. -/
instance : Std.TransCmp compare where
  eq_swap := compare_swap _ _
  isLE_trans := by
    intro first second third before after
    rw [compare_isLE_iff] at before after ⊢
    exact before.trans after

theorem compare_eq_iff (left right : Candidate) :
    compare left right = .eq ↔ left.key = right.key := by
  refine Iff.trans ?_ le_antisymm_iff.symm
  rw [← compare_isLE_iff, ← compare_isLE_iff, compare_swap right left]
  cases compare left right <;> decide

/-- Candidates of distinct providers are ranked in one way only. -/
theorem rank_perm {candidates others : List Candidate} (reordered : candidates.Perm others)
    (distinct : (others.map (·.offering.provider)).Nodup) : rank candidates = rank others := by
  have same : (rank candidates).Perm (rank others) :=
    (List.mergeSort_perm _ _).trans (reordered.trans (List.mergeSort_perm _ _).symm)
  have apart : ((rank others).map (·.offering.provider)).Nodup :=
    ((List.mergeSort_perm others _).map _).nodup_iff.mpr distinct
  exact eq_of_ordered apart same (rank_pairwise candidates) (rank_pairwise others)

end Candidate

/-! ## Models with their offerings in another order -/

/-- Offerings of providers that are distinct and were not named before are all first ones. -/
theorem firstOfferings_of_distinct {seen : List String} {offerings : List Offering}
    (unseen : ∀ offering ∈ offerings, offering.provider ∉ seen)
    (distinct : (offerings.map Offering.provider).Nodup) :
    firstOfferings seen offerings = offerings := by
  induction offerings generalizing seen with
  | nil => rfl
  | cons offering rest ih =>
      obtain ⟨absent, distinctRest⟩ := List.nodup_cons.mp distinct
      obtain ⟨new, unseenRest⟩ := List.forall_mem_cons.mp unseen
      have unseenLater : ∀ later ∈ rest, later.provider ∉ offering.provider :: seen := by
        intro later member named
        rcases List.mem_cons.mp named with same | before
        · exact absent (same ▸ List.mem_map_of_mem member)
        · exact unseenRest later member before
      rw [firstOfferings, if_neg new, ih unseenLater distinctRest]

namespace Model

/-- A model has the offerings of another, which are of distinct providers, in some order. -/
structure Reorders (model other : Model) : Prop where
  /-- They have one identifier. -/
  id : model.id = other.id
  /-- The offerings are of distinct providers. -/
  distinct : (other.offerings.map Offering.provider).Nodup
  /-- Both have the same offerings. -/
  reordered : model.offerings.Perm other.offerings

variable {model other : Model}

theorem dedupe_of_distinct (distinct : (model.offerings.map Offering.provider).Nodup) :
    model.dedupe = model := by
  rw [dedupe, firstOfferings_of_distinct (fun _ _ => List.not_mem_nil) distinct]
  rfl

theorem Reorders.dedupe (reorders : model.Reorders other) :
    model.dedupe.Reorders other.dedupe := by
  have distinct : (model.offerings.map Offering.provider).Nodup :=
    (reorders.reordered.map Offering.provider).nodup_iff.mpr reorders.distinct
  rw [dedupe_of_distinct distinct, dedupe_of_distinct reorders.distinct]
  exact reorders

theorem map_id_eq {models others : List Model} (reordered : List.Forall₂ Reorders models others) :
    models.map (·.id) = others.map (·.id) := by
  induction reordered with
  | nil => rfl
  | cons first _ ih => rw [List.map_cons, List.map_cons, first.id, ih]

end Model

/-! ## Registries -/

/-- Two updates differ in the order of offerings of distinct providers only. -/
inductive CatalogUpdate.Reorders : CatalogUpdate → CatalogUpdate → Prop
  /-- The registered models are the same but for that. -/
  | register {models others : List Model} (reordered : List.Forall₂ Model.Reorders models others) :
      Reorders (.register models) (.register others)
  /-- The models of the catalog are the same but for that. -/
  | replaceAll {models others : List Model}
      (reordered : List.Forall₂ Model.Reorders models others) :
      Reorders (.replaceAll models) (.replaceAll others)
  /-- The offerings are the same but for that. -/
  | setOfferings {id : String} {offerings others : List Offering}
      (distinct : (others.map Offering.provider).Nodup) (reordered : offerings.Perm others) :
      Reorders (.setOfferings id offerings) (.setOfferings id others)

namespace Registry

variable {registry other : Registry}

/-- Two registries know the same models, but for the order of offerings of distinct providers. -/
def Reorders (registry other : Registry) : Prop :=
  ∀ id, registry.lookup? id = other.lookup? id ∨
    ∃ model another, registry.lookup? id = some model ∧ other.lookup? id = some another ∧
      model.Reorders another

theorem Reorders.refl (registry : Registry) : registry.Reorders registry := fun _ => .inl rfl

/-- Another order of offerings of distinct providers can take the place of that of a model. -/
theorem reorders_insert {id : String} {model : Model} {offerings : List Offering}
    (known : registry.lookup? id = some model)
    (distinct : (model.offerings.map Offering.provider).Nodup)
    (reordered : offerings.Perm model.offerings) :
    Reorders ⟨registry.models.insert id (model.withOfferings offerings)⟩ registry := by
  intro name
  rw [lookup?, Table.get?_insert]
  split
  · rename_i here
    subst here
    exact .inr ⟨_, model, rfl, known, rfl, distinct, reordered⟩
  · exact .inl rfl

theorem Reorders.put (reorders : registry.Reorders other) {model another : Model}
    (reordered : model.Reorders another) : (registry.put model).Reorders (other.put another) := by
  intro id
  rw [lookup?_put, lookup?_put, reordered.id]
  split
  · exact .inr ⟨_, _, rfl, rfl, reordered.dedupe⟩
  · exact reorders id

theorem Reorders.register (reorders : registry.Reorders other) {models others : List Model}
    (reordered : List.Forall₂ Model.Reorders models others) :
    (registry.register models).Reorders (other.register others) := by
  induction reordered generalizing registry other with
  | nil => exact reorders
  | cons first _ ih => exact ih (reorders.put first)

theorem Reorders.retire (reorders : registry.Reorders other) (listed : List String) :
    (registry.retire listed).Reorders (other.retire listed) := by
  intro id
  rw [lookup?_retire, lookup?_retire]
  rcases reorders id with same | ⟨model, another, known, knownOther, reordered⟩
  · exact .inl (by rw [same])
  · refine .inr ⟨_, _, by rw [known]; rfl, by rw [knownOther]; rfl, ?_⟩
    split
    · exact reordered
    · exact ⟨reordered.id, List.nodup_nil, .nil⟩

theorem Reorders.setOfferings (reorders : registry.Reorders other) {id : String}
    {offerings others : List Offering} (distinct : (others.map Offering.provider).Nodup)
    (reordered : offerings.Perm others) :
    (registry.setOfferings id offerings).Reorders (other.setOfferings id others) := by
  refine reorders.put ⟨?_, distinct, reordered⟩
  rcases reorders id with same | ⟨model, another, known, knownOther, alike⟩
  · rw [same]
    rfl
  · rw [known, knownOther]
    exact alike.id

theorem Reorders.update (reorders : registry.Reorders other) {step another : CatalogUpdate}
    (reordered : step.Reorders another) :
    (registry.update step).Reorders (other.update another) := by
  cases reordered with
  | register reordered => exact reorders.register reordered
  | replaceAll reordered =>
      rw [Registry.update, Registry.update, replaceAll, replaceAll, Model.map_id_eq reordered]
      exact (reorders.retire _).register reordered
  | setOfferings distinct reordered => exact reorders.setOfferings distinct reordered

theorem Reorders.updates (reorders : registry.Reorders other) {steps others : List CatalogUpdate}
    (reordered : List.Forall₂ CatalogUpdate.Reorders steps others) :
    (steps.foldl Registry.update registry).Reorders (others.foldl Registry.update other) := by
  induction reordered generalizing registry other with
  | nil => exact reorders
  | cons first _ ih => exact ih (reorders.update first)

end Registry

/-! ## Plans -/

namespace PlanningView

variable {bank : Bank} {health : HealthTracker} {selection : Selection}

/-- The same answer is given whatever the order of offerings of distinct providers is. -/
theorem plan_of_reorders {registry other : Registry} (reorders : registry.Reorders other)
    (request : PlanRequest) :
    plan ⟨registry, bank, health, selection⟩ request =
      plan ⟨other, bank, health, selection⟩ request := by
  let view : PlanningView := ⟨other, bank, health, selection⟩
  have eligible :
      eligible ⟨registry, bank, health, selection⟩ request = view.eligible request := rfl
  have candidate : candidate ⟨registry, bank, health, selection⟩ = view.candidate := rfl
  rw [plan, plan, eligible, candidate]
  dsimp only
  rcases reorders request.model with same | ⟨model, another, known, knownOther, reordered⟩
  · rw [same]
  · have candidates : ((model.offerings.filter (view.eligible request)).map view.candidate).Perm
        ((another.offerings.filter (view.eligible request)).map view.candidate) :=
      (reordered.reordered.filter _).map _
    have distinct : (((another.offerings.filter (view.eligible request)).map view.candidate).map
        (·.offering.provider)).Nodup := by
      rw [map_provider_candidate]
      exact (List.filter_sublist.map _).nodup reordered.distinct
    rw [known, knownOther]
    dsimp only
    rw [candidates.isEmpty_eq, Candidate.rank_perm candidates distinct]

end PlanningView

namespace Engine

/-- What an engine answers depends on its registry only up to the order of offerings. -/
theorem plan_onRegistry_of_reorders (engine : Engine) (request : PlanRequest)
    {registry other : Registry} (reorders : registry.Reorders other) :
    ((engine.onRegistry fun _ => registry).plan request).2 =
      ((engine.onRegistry fun _ => other).plan request).2 := by
  rw [plan_eq, plan_eq]
  exact PlanningView.plan_of_reorders reorders request

/-- Candidates are compared by a total order in which only candidates of one provider are level.
Whatever the state of an engine is, it answers a request alike, with the same attempts at the same
ranks, when the offerings of a model, which are of distinct providers, take another order; and also
after updates of its registry that differ in the order of such offerings only. -/
theorem catalog_order_law :
    (∀ left right, Candidate.compare left right = (Candidate.compare right left).swap) ∧
    (∀ left right, (Candidate.compare left right).isLE = true ∨
      (Candidate.compare right left).isLE = true) ∧
    (∀ first second third, (Candidate.compare first second).isLE = true →
      (Candidate.compare second third).isLE = true →
        (Candidate.compare first third).isLE = true) ∧
    (∀ left right, Candidate.compare left right = .eq →
      left.offering.provider = right.offering.provider) ∧
    ∀ (engine : Engine) (request : PlanRequest),
      let answer (registry : Registry) := ((engine.onRegistry fun _ => registry).plan request).2
      (∀ id model offerings, engine.registry.lookup? id = some model →
        (model.offerings.map Offering.provider).Nodup → offerings.Perm model.offerings →
          answer ⟨engine.registry.models.insert id (model.withOfferings offerings)⟩ =
            answer engine.registry) ∧
      ∀ steps others, List.Forall₂ CatalogUpdate.Reorders steps others →
        answer (steps.foldl Registry.update engine.registry) =
          answer (others.foldl Registry.update engine.registry) := by
  refine ⟨Candidate.compare_swap, fun left right => ?_, fun _ _ _ before after => ?_,
    fun left right level => ?_, fun engine request => ⟨?_, ?_⟩⟩
  · rw [Candidate.compare_isLE_iff, Candidate.compare_isLE_iff]
    exact le_total left.key right.key
  · exact Std.TransCmp.isLE_trans before after
  · exact Candidate.provider_eq_of_key_eq ((Candidate.compare_eq_iff left right).mp level)
  · intro id model offerings known distinct reordered
    exact engine.plan_onRegistry_of_reorders request
      (Registry.reorders_insert known distinct reordered)
  · intro steps others reordered
    exact engine.plan_onRegistry_of_reorders request
      ((Registry.Reorders.refl engine.registry).updates reordered)

end Engine

end ProviderRouting
