import Mathlib.Data.List.Sort
import ProviderRouting.Proofs.Engine.Books
import ProviderRouting.Proofs.Plan.Ranking

/-!
# What a plan is

A plan is told apart from the way it is made: it holds the offerings that can serve the request,
each once, in the order of their keys, except that a preferred provider that is not open comes
first.  Planning answers with such a list or says why there is none, and counts what it answered.
-/

namespace ProviderRouting

/-! ## Offerings that can serve a request -/

/-- An offering can do everything that is asked for. -/
structure Capabilities.Covers (offered asked : Capabilities) : Prop where
  /-- Streamed responses, if they are asked for. -/
  streaming : asked.streaming = true → offered.streaming = true
  /-- Function calling, if it is asked for. -/
  functionCalling : asked.functionCalling = true → offered.functionCalling = true
  /-- Image input, if it is asked for. -/
  vision : asked.vision = true → offered.vision = true

theorem Capabilities.satisfies_iff (offered asked : Capabilities) :
    offered.satisfies asked = true ↔ offered.Covers asked := by
  have implied (wanted there : Bool) :
      (!wanted || there) = true ↔ (wanted = true → there = true) := by
    cases wanted <;> simp
  simp only [satisfies, Bool.and_eq_true, implied]
  exact ⟨fun ⟨⟨streaming, calling⟩, vision⟩ => ⟨streaming, calling, vision⟩,
    fun ⟨streaming, calling, vision⟩ => ⟨⟨streaming, calling⟩, vision⟩⟩

/-- The credentials that an offering needs are there: a list of the providers with credentials,
where one is set, has its provider. -/
def Selection.Admits (selection : Selection) (offering : Offering) : Prop :=
  offering.requiresCredentials = true →
    ∀ providers, selection.credentialed = some providers → offering.provider ∈ providers

theorem Selection.hasCredentials_iff (selection : Selection) (offering : Offering) :
    selection.hasCredentials offering = true ↔ selection.Admits offering := by
  unfold hasCredentials Admits
  cases offering.requiresCredentials <;> cases selection.credentialed <;> simp

namespace PlanningView

/-- An offering can serve a request. -/
structure Serves (view : PlanningView) (request : PlanRequest) (offering : Offering) : Prop where
  /-- The operator lets it be used. -/
  available : offering.available = true
  /-- It can do what is asked for. -/
  capable : offering.capabilities.Covers request.required
  /-- The credentials that it needs are there. -/
  credentialed : view.selection.Admits offering

theorem eligible_iff (view : PlanningView) (request : PlanRequest) (offering : Offering) :
    view.eligible request offering = true ↔ view.Serves request offering := by
  simp only [eligible, Bool.and_eq_true, Capabilities.satisfies_iff, Selection.hasCredentials_iff]
  exact ⟨fun ⟨⟨available, capable⟩, credentialed⟩ => ⟨available, capable, credentialed⟩,
    fun ⟨available, capable, credentialed⟩ => ⟨⟨available, capable⟩, credentialed⟩⟩

instance (view : PlanningView) (request : PlanRequest) (offering : Offering) :
    Decidable (view.Serves request offering) :=
  decidable_of_iff _ (view.eligible_iff request offering)

/-! ## The order of a plan -/

/-- The doubles that offerings are ranked by stand in their total order. -/
structure OrdersDoubles (view : PlanningView) : Prop where
  /-- The places by which doubles are compared are those in the total order. -/
  places : Binary64.IsTotalOrder Binary64.orderKey
  /-- Costs that are not numbers stand at the ends, by their signs. -/
  costs : ∀ value, Binary64.read value ≠ .nan →
    (Cost.undefined true).orderKey < (Cost.amount value).orderKey ∧
      (Cost.amount value).orderKey < (Cost.undefined false).orderKey
  /-- Health statistics are numbers. -/
  health : ∀ provider, (view.health.snapshot provider).IsNumeric

theorem ordersDoubles (view : PlanningView) : view.OrdersDoubles where
  places := Binary64.isTotalOrder_orderKey
  costs _ := Cost.orderKey_undefined
  health := view.health.isNumeric_snapshot

/-- What an offering is ranked by at present. -/
def key (view : PlanningView) (offering : Offering) : RankKey := (view.candidate offering).key

/-- An offering is of the preferred provider, whose breaker is not open. -/
structure Pins (view : PlanningView) (request : PlanRequest) (offering : Offering) : Prop where
  /-- Its provider is the preferred one. -/
  preferred : request.preferred = some offering.provider
  /-- Its breaker is not open. -/
  closed : view.bank.phase offering.provider ≠ .opened

/-- The first of the ranked offerings that is pinned moved over those before it, if there is one. -/
inductive Moves (view : PlanningView) (request : PlanRequest) :
    (ranked tried : List Offering) → Prop
  /-- The chosen one is pinned and none before it is. -/
  | moved {before after : List Offering} {chosen : Offering}
      (unpinned : ∀ offering ∈ before, ¬view.Pins request offering)
      (pinned : view.Pins request chosen) :
      view.Moves request (before ++ chosen :: after) (chosen :: (before ++ after))
  /-- None is pinned. -/
  | kept {ranked : List Offering} (unpinned : ∀ offering ∈ ranked, ¬view.Pins request offering) :
      view.Moves request ranked ranked

/-- A list has the offerings that can serve a request, each once, ranked by their keys. -/
structure Ranks (view : PlanningView) (request : PlanRequest) (offerings ranked : List Offering) :
    Prop where
  /-- The list has those offerings and no others. -/
  serving : ranked.Perm (offerings.filter (view.Serves request))
  /-- No key is followed by a lesser one. -/
  ordered : ranked.Pairwise fun left right => view.key left ≤ view.key right

/-- The attempt at an offering, at its place in a plan. -/
def attempt (view : PlanningView) (rank : Nat) (offering : Offering) : Attempt :=
  ⟨offering.provider, offering.providerModel, rank, view.bank.phase offering.provider⟩

/-- Attempts are the plan for a request out of the offerings of a model. -/
def IsPlan (view : PlanningView) (request : PlanRequest) (offerings : List Offering)
    (attempts : List Attempt) : Prop :=
  ∃ ranked tried, view.Ranks request offerings ranked ∧ view.Moves request ranked tried ∧
    attempts = tried.mapIdx view.attempt

variable {view : PlanningView} {request : PlanRequest} {offerings ranked tried : List Offering}

theorem isOpen_candidate (offering : Offering) :
    (view.candidate offering).isOpen = true ↔ view.bank.phase offering.provider = .opened := by
  simp [Candidate.isOpen, candidate]

theorem isPreferred_iff (offering : Offering) :
    isPreferred request (view.candidate offering) = true ↔ view.Pins request offering := by
  rw [isPreferred, Bool.and_eq_true, Bool.not_eq_true', ← Bool.not_eq_true, isOpen_candidate,
    beq_iff_eq]
  exact ⟨fun ⟨preferred, closed⟩ => ⟨preferred, closed⟩,
    fun ⟨preferred, closed⟩ => ⟨preferred, closed⟩⟩

theorem map_candidate_injective : Function.Injective (List.map view.candidate) := by
  refine List.map_injective_iff.2 fun left right same => ?_
  exact congrArg Candidate.offering same

theorem map_provider_candidate (view : PlanningView) (offerings : List Offering) :
    (offerings.map view.candidate).map (·.offering.provider) =
      offerings.map Offering.provider := by
  rw [List.map_map]
  rfl

/-! ## Ranking -/

theorem filter_eligible (view : PlanningView) (request : PlanRequest) (offerings : List Offering) :
    offerings.filter (view.eligible request) = offerings.filter (view.Serves request) := by
  refine List.filter_congr fun offering _ => ?_
  rw [Bool.eq_iff_iff, eligible_iff, decide_eq_true_iff]

/-- Ranking the candidates of eligible offerings ranks those that can serve the request. -/
theorem exists_ranks (view : PlanningView) (request : PlanRequest) (offerings : List Offering) :
    ∃ ranked, view.Ranks request offerings ranked ∧
      Candidate.rank ((offerings.filter (view.eligible request)).map view.candidate) =
        ranked.map view.candidate := by
  have sorted := (List.map_mergeSort (f := view.candidate)
    (l := offerings.filter (view.eligible request))
    (r := fun left right => (view.candidate left).precedes (view.candidate right))
    fun _ _ _ _ => rfl).symm
  have ordered := Candidate.rank_pairwise
    ((offerings.filter (view.eligible request)).map view.candidate)
  rw [Candidate.rank, sorted, List.pairwise_map] at ordered
  refine ⟨_, ⟨?_, ordered⟩, sorted⟩
  rw [← filter_eligible]
  exact List.mergeSort_perm _ _

theorem Ranks.openLast (ranks : view.Ranks request offerings ranked) :
    ranked.Pairwise fun left right =>
      view.bank.phase left.provider = .opened → view.bank.phase right.provider = .opened := by
  refine ranks.ordered.imp fun below opened => ?_
  rw [← isOpen_candidate] at opened ⊢
  exact Candidate.isOpen_of_key_le below opened

/-- Offerings of distinct providers can be ranked in one way only. -/
theorem Ranks.unique {other : List Offering}
    (distinct : (offerings.map Offering.provider).Nodup)
    (ranks : view.Ranks request offerings ranked) (others : view.Ranks request offerings other) :
    ranked = other := by
  have reordered : ranked.Perm other := ranks.serving.trans others.serving.symm
  have apart : ((other.map view.candidate).map (·.offering.provider)).Nodup := by
    rw [map_provider_candidate]
    exact ((others.serving.map _).nodup_iff.mpr ((List.filter_sublist.map _).nodup distinct))
  refine map_candidate_injective
    (Candidate.eq_of_ordered apart (reordered.map view.candidate) ?_ ?_)
  · exact List.pairwise_map.mpr ranks.ordered
  · exact List.pairwise_map.mpr others.ordered

/-! ## Pinning -/

theorem Moves.pin_eq (moves : view.Moves request ranked tried) :
    Candidate.pin (isPreferred request) (ranked.map view.candidate) = tried.map view.candidate := by
  have failing {list : List Offering} (unpinned : ∀ offering ∈ list, ¬view.Pins request offering) :
      ∀ candidate ∈ list.map view.candidate, ¬isPreferred request candidate = true := by
    intro candidate member
    obtain ⟨offering, among, rfl⟩ := List.mem_map.1 member
    rw [isPreferred_iff]
    exact unpinned offering among
  cases moves with
  | moved unpinned pinned =>
      rw [List.map_append, List.map_cons,
        Candidate.pin_append (failing unpinned) ((isPreferred_iff _).2 pinned), List.map_cons,
        List.map_append]
  | kept unpinned => exact Candidate.pin_of_none (failing unpinned)

theorem exists_moves (view : PlanningView) (request : PlanRequest) (ranked : List Offering) :
    ∃ tried, view.Moves request ranked tried := by
  induction ranked with
  | nil => exact ⟨[], .kept nofun⟩
  | cons offering rest induction =>
      by_cases pinned : view.Pins request offering
      · have moves : view.Moves request ([] ++ offering :: rest) (offering :: ([] ++ rest)) :=
          .moved nofun pinned
        exact ⟨_, moves⟩
      · obtain ⟨tried, moves⟩ := induction
        cases moves with
        | moved unpinned chosen =>
            exact ⟨_, .moved (List.forall_mem_cons.2 ⟨pinned, unpinned⟩) chosen⟩
        | kept unpinned => exact ⟨_, .kept (List.forall_mem_cons.2 ⟨pinned, unpinned⟩)⟩

theorem Moves.openLast (moves : view.Moves request ranked tried)
    (openLast : ranked.Pairwise fun left right =>
      view.bank.phase left.provider = .opened → view.bank.phase right.provider = .opened) :
    tried.Pairwise fun left right =>
      view.bank.phase left.provider = .opened → view.bank.phase right.provider = .opened := by
  cases moves with
  | moved unpinned pinned =>
      refine List.pairwise_cons.2 ⟨fun _ _ opened => absurd opened pinned.closed, ?_⟩
      exact openLast.sublist ((List.sublist_cons_self _ _).append_left _)
  | kept unpinned => exact openLast

/-! ## Plans -/

theorem number_map_candidate (rank : Nat) (tried : List Offering) :
    number rank (tried.map view.candidate) =
      tried.mapIdx fun place offering => view.attempt (rank + place) offering := by
  induction tried generalizing rank with
  | nil => rfl
  | cons offering rest induction =>
      rw [List.map_cons, number, induction, List.mapIdx_cons]
      simp only [attempt, candidate, Nat.add_zero, Nat.add_assoc, Nat.add_comm 1]

/-- No attempt at an open provider stands before one at a provider that is not open. -/
theorem IsPlan.openLast {attempts : List Attempt}
    (isPlan : view.IsPlan request offerings attempts) :
    attempts.Pairwise fun left right => left.phase = .opened → right.phase = .opened := by
  obtain ⟨ranked, tried, ranks, moves, rfl⟩ := isPlan
  have openLast := moves.openLast ranks.openLast
  rw [List.pairwise_iff_getElem] at openLast ⊢
  intro left right leftBelow rightBelow before
  simp only [List.getElem_mapIdx]
  exact openLast left right _ _ before

theorem IsPlan.phase_eq {attempts : List Attempt}
    (isPlan : view.IsPlan request offerings attempts) {attempt : Attempt}
    (member : attempt ∈ attempts) : attempt.phase = view.bank.phase attempt.provider := by
  obtain ⟨ranked, tried, -, -, rfl⟩ := isPlan
  obtain ⟨place, below, rfl⟩ := List.mem_mapIdx.mp member
  rfl

/-- Out of offerings of distinct providers only one plan can be made. -/
theorem IsPlan.unique {attempts others : List Attempt}
    (distinct : (offerings.map Offering.provider).Nodup)
    (isPlan : view.IsPlan request offerings attempts)
    (another : view.IsPlan request offerings others) : others = attempts := by
  obtain ⟨ranked, tried, ranks, moves, rfl⟩ := isPlan
  obtain ⟨other, otherTried, otherRanks, otherMoves, rfl⟩ := another
  obtain rfl : ranked = other := ranks.unique distinct otherRanks
  have same : otherTried = tried :=
    map_candidate_injective (otherMoves.pin_eq.symm.trans moves.pin_eq)
  rw [same]

/-- What a view answers to a request. -/
structure Answers (view : PlanningView) (request : PlanRequest)
    (answer : Except RoutingError (List Attempt)) : Prop where
  /-- The model is reported as not found exactly when it is not known. -/
  unknown : answer = .error (.modelNotFound request.model) ↔
    view.registry.lookup? request.model = none
  /-- There are no providers exactly when it is known and no offering of it can serve the
  request. -/
  unserved : answer = .error (.noProviders request.model) ↔
    ∃ model, view.registry.lookup? request.model = some model ∧
      ∀ offering ∈ model.offerings, ¬view.Serves request offering
  /-- Otherwise there is a plan. -/
  served : ∀ model, view.registry.lookup? request.model = some model →
    (∃ offering ∈ model.offerings, view.Serves request offering) →
      ∃ attempts, answer = .ok attempts ∧ view.IsPlan request model.offerings attempts
  /-- No attempt at an open provider stands before one at a provider that is not open. -/
  openLast : ∀ attempts, answer = .ok attempts →
    attempts.Pairwise fun left right => left.phase = .opened → right.phase = .opened
  /-- When the offerings are of distinct providers, no other list is a plan. -/
  determined : ∀ model attempts, view.registry.lookup? request.model = some model →
    (model.offerings.map Offering.provider).Nodup → answer = .ok attempts →
      ∀ others, view.IsPlan request model.offerings others → others = attempts

theorem candidates_isEmpty_iff (view : PlanningView) (request : PlanRequest)
    (offerings : List Offering) :
    ((offerings.filter (view.eligible request)).map view.candidate).isEmpty = true ↔
      ∀ offering ∈ offerings, ¬view.Serves request offering := by
  rw [List.isEmpty_iff, List.map_eq_nil_iff, List.filter_eq_nil_iff]
  simp only [eligible_iff]

theorem number_isPlan (view : PlanningView) (request : PlanRequest) (offerings : List Offering) :
    view.IsPlan request offerings
      (number 0 (Candidate.pin (isPreferred request)
        (Candidate.rank ((offerings.filter (view.eligible request)).map view.candidate)))) := by
  obtain ⟨ranked, ranks, rank_eq⟩ := view.exists_ranks request offerings
  obtain ⟨tried, moves⟩ := view.exists_moves request ranked
  refine ⟨ranked, tried, ranks, moves, ?_⟩
  rw [rank_eq, moves.pin_eq, number_map_candidate]
  simp only [Nat.zero_add]

theorem isPlan_of_plan {attempts : List Attempt} (made : view.plan request = .ok attempts) :
    ∃ offerings, view.IsPlan request offerings attempts := by
  rw [plan] at made
  split at made
  · cases made
  · dsimp only at made
    split at made
    · cases made
    · obtain rfl := Except.ok.inj made
      exact ⟨_, view.number_isPlan request _⟩

/-- Offerings that a model lists in the order in which they are tried are planned as they are
listed. -/
theorem plan_of_ordered {model : Model} (known : view.registry.lookup? request.model = some model)
    (some : model.offerings ≠ [])
    (eligible : model.offerings.filter (view.eligible request) = model.offerings)
    (unpinned : ∀ offering ∈ model.offerings, ¬view.Pins request offering)
    (ordered : model.offerings.Pairwise fun left right => view.key left ≤ view.key right) :
    view.plan request = .ok (model.offerings.mapIdx view.attempt) := by
  have ranked : Candidate.rank (model.offerings.map view.candidate) =
      model.offerings.map view.candidate := by
    refine List.mergeSort_of_pairwise (List.pairwise_map.2 (ordered.imp fun below => ?_))
    exact (Candidate.precedes_iff _ _).2 below
  have nonempty : ¬(model.offerings.map view.candidate).isEmpty = true := by simpa using some
  rw [plan, known]
  dsimp only
  rw [eligible, if_neg nonempty, ranked, (Moves.kept unpinned).pin_eq, number_map_candidate]
  simp only [Nat.zero_add]

theorem answers_of_unknown (unknown : view.registry.lookup? request.model = none) :
    view.Answers request (.error (.modelNotFound request.model)) where
  unknown := iff_of_true rfl unknown
  unserved := by simp [unknown]
  served := by simp [unknown]
  openLast := nofun
  determined := nofun

theorem answers_of_unserved {model : Model}
    (known : view.registry.lookup? request.model = some model)
    (unserved : ∀ offering ∈ model.offerings, ¬view.Serves request offering) :
    view.Answers request (.error (.noProviders request.model)) where
  unknown := by simp [known]
  unserved := iff_of_true rfl ⟨model, known, unserved⟩
  served := by
    rintro other same ⟨offering, member, serves⟩
    obtain rfl : model = other := Option.some.inj (known.symm.trans same)
    exact absurd serves (unserved offering member)
  openLast := nofun
  determined := nofun

theorem answers_of_isPlan {model : Model} {attempts : List Attempt}
    (known : view.registry.lookup? request.model = some model)
    (served : ∃ offering ∈ model.offerings, view.Serves request offering)
    (isPlan : view.IsPlan request model.offerings attempts) :
    view.Answers request (.ok attempts) where
  unknown := by simp [known]
  unserved := by
    refine iff_of_false nofun ?_
    rintro ⟨other, same, unserved⟩
    obtain rfl : model = other := Option.some.inj (known.symm.trans same)
    obtain ⟨offering, member, serves⟩ := served
    exact unserved offering member serves
  served := by
    intro other same _
    obtain rfl : model = other := Option.some.inj (known.symm.trans same)
    exact ⟨attempts, rfl, isPlan⟩
  openLast := by
    rintro _ ⟨⟩
    exact isPlan.openLast
  determined := by
    rintro other _ same distinct ⟨⟩ others another
    obtain rfl : model = other := Option.some.inj (known.symm.trans same)
    exact isPlan.unique distinct another

theorem plan_answers (view : PlanningView) (request : PlanRequest) :
    view.Answers request (view.plan request) := by
  unfold plan
  cases known : view.registry.lookup? request.model with
  | none => exact answers_of_unknown known
  | some model =>
      dsimp only
      split
      · rename_i empty
        exact answers_of_unserved known ((view.candidates_isEmpty_iff request _).1 empty)
      · rename_i some
        rw [candidates_isEmpty_iff] at some
        push Not at some
        exact answers_of_isPlan known some (view.number_isPlan request model.offerings)

end PlanningView

/-! ## Planning by an engine -/

/-- The counter of an answer to a request. -/
def Counter.ofAnswer {α ε : Type} : Except ε α → Counter
  | .ok _ => plans
  | .error _ => planFailures

namespace Engine

/-- What an engine leaves behind after an answer to a request. -/
structure CountsAnswer {α ε : Type} (engine after : Engine) (answer : Except ε α) : Prop where
  /-- The counter of the answer grew by one, and no other one. -/
  counted : ∀ counter, after.metrics.totals.get counter =
    engine.metrics.totals.get counter + if Counter.ofAnswer answer = counter then 1 else 0
  /-- All but the counters is as it was. -/
  kept : after =
    { engine with metrics := { engine.metrics with totals := after.metrics.totals } }

theorem plan_eq (engine : Engine) (request : PlanRequest) :
    engine.plan request =
      (engine.count (Counter.ofAnswer (engine.planningView.plan request)),
        engine.planningView.plan request) := by
  unfold plan
  split
  · rename_i attempts made
    rw [made]
    rfl
  · rename_i fault made
    rw [made]
    rfl

/-- Planning answers with the offerings that can serve the request, in the order in which they are
to be tried, or says why there are none; and it changes one counter and nothing else.  The doubles
among what offerings are ranked by stand in their total order. -/
theorem planning_law (engine : Engine) (request : PlanRequest) :
    engine.planningView.Answers request (engine.plan request).2 ∧
      engine.CountsAnswer (engine.plan request).1 (engine.plan request).2 ∧
      engine.planningView.OrdersDoubles := by
  rw [plan_eq]
  exact ⟨engine.planningView.plan_answers request, ⟨fun _ => totals_count _ _ _, rfl⟩,
    engine.planningView.ordersDoubles⟩

end Engine

end ProviderRouting
