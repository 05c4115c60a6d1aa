import Mathlib.Tactic.Common
import ProviderRouting.Proofs.Breaker.Banks
import ProviderRouting.Proofs.Breaker.Course
import ProviderRouting.Proofs.Tables

/-!
# Operations on a bank, breaker by breaker

Every breaker of a bank undergoes at most one operation when something is done to the bank, and
what is reported about its provider comes from that.  All breakers keep to the thresholds that the
bank has for their providers.
-/

namespace ProviderRouting

open Breaker (Operation)

/-- What an operation on a bank does to the breaker of a provider, if it does anything to it. -/
def BankOperation.on (operation : BankOperation) (name : String) : Option Operation :=
  match operation with
  | .allow provider => if provider = name then some .allow else none
  | .record provider succeeded =>
    if provider = name then some (if succeeded then .success else .failure) else none
  | .bypass provider succeeded => if provider = name then some (.bypass succeeded) else none
  | .reset provider => if provider = name then some .reset else none
  | .resetAll => some .reset
  | .adopt provider openedWall => if provider = name then some (.adopt openedWall) else none
  | .setDefault _ | .setProvider _ _ => none
  | .snapshot provider => if provider = name then some .snapshot else none
  | .snapshots => some .snapshot

theorem BankOperation.on_eq_allow_iff {operation : BankOperation} {name : String} :
    operation.on name = some .allow ↔ operation = .allow name := by
  cases operation with
  | record provider succeeded => cases succeeded <;> simp [on]
  | allow _ | bypass _ _ | reset _ | adopt _ _ | snapshot _ => simp [on]
  | resetAll | setDefault _ | setProvider _ _ | snapshots => simp [on]

theorem BankOperation.on_eq_reset_iff {operation : BankOperation} {name : String} :
    operation.on name = some .reset ↔ operation = .reset name ∨ operation = .resetAll := by
  cases operation with
  | record provider succeeded => cases succeeded <;> simp [on]
  | allow _ | bypass _ _ | reset _ | adopt _ _ | snapshot _ => simp [on]
  | resetAll | setDefault _ | setProvider _ _ | snapshots => simp [on]

/-- The provider about whose breaker an operation is. -/
def BankOperation.provider? : BankOperation → Option String
  | .allow provider | .record provider _ | .bypass provider _ => some provider
  | .reset provider | .adopt provider _ | .snapshot provider => some provider
  | .resetAll | .setDefault _ | .setProvider _ _ | .snapshots => none

/-- Whether an operation gives a provider a breaker. -/
def BankOperation.creates (operation : BankOperation) (name : String) : Bool :=
  match operation with
  | .record provider _ | .bypass provider _ | .reset provider | .adopt provider _ =>
    provider = name
  | .allow _ | .resetAll | .setDefault _ | .setProvider _ _ | .snapshot _ | .snapshots => false

/-- An operation that sets thresholds. -/
def BankOperation.Sets : BankOperation → Prop
  | .setDefault _ | .setProvider _ _ => True
  | .allow _ | .record _ _ | .bypass _ _ | .reset _ | .resetAll | .adopt _ _ => False
  | .snapshot _ | .snapshots => False

namespace Breaker

/-- Carry out an operation, if there is one. -/
def undergo (operation : Option Operation) (moment : Moment) (breaker : Breaker) : Outcome :=
  match operation with
  | some operation => breaker.apply operation moment
  | none => breaker.keep

@[simp] theorem undergo_none (moment : Moment) (breaker : Breaker) :
    breaker.undergo none moment = breaker.keep := rfl

@[simp] theorem undergo_some (operation : Operation) (moment : Moment) (breaker : Breaker) :
    breaker.undergo (some operation) moment = breaker.apply operation moment := rfl

@[simp] theorem undergo_thresholds (operation : Option Operation) (moment : Moment)
    (breaker : Breaker) :
    (breaker.undergo operation moment).breaker.thresholds = breaker.thresholds := by
  cases operation with
  | none => rfl
  | some operation => exact apply_thresholds operation

/-- A breaker that denies a call is not closed, and does nothing but reject it. -/
theorem allow_of_denied {breaker : Breaker} {moment : Moment}
    (denied : (breaker.allow moment).granted = false) :
    breaker.phase ≠ .closed ∧ breaker.allow moment = breaker.reject := by
  have barred : breaker.phase ≠ .closed := by
    intro closed
    simp [allow, closed, keep] at denied
  refine ⟨barred, ?_⟩
  cases phase : breaker.phase with
  | closed => exact absurd phase barred
  | opened =>
      simp only [allow, phase] at denied ⊢
      split
      · simp_all [switch]
      · rfl
  | halfOpen =>
      simp only [allow, phase] at denied ⊢
      split
      · rfl
      · simp_all [keep]

end Breaker

namespace Bank

variable {bank : Bank} {provider name : String} {moment : Moment}

/-- Every breaker keeps to the thresholds of its provider. -/
def Governed (bank : Bank) : Prop :=
  ∀ name breaker, bank.get? name = some breaker → breaker.thresholds = bank.thresholdsFor name

theorem governed_ofDefaults (thresholds : Thresholds) : (ofDefaults thresholds).Governed := nofun

theorem Governed.getOrFresh (governed : bank.Governed) (name : String) :
    (bank.getOrFresh name).thresholds = bank.thresholdsFor name := by
  unfold Bank.getOrFresh
  cases held : bank.get? name with
  | none => rfl
  | some breaker => exact governed name breaker held

theorem get?_put (bank : Bank) (provider name : String) (breaker : Breaker) :
    (bank.put provider breaker).get? name =
      if provider = name then some breaker else bank.get? name :=
  Table.get?_insert _ _ _ _

/-- A bank is determined by its lookups and its thresholds. -/
theorem ext_get? {left right : Bank} (lookups : ∀ name, left.get? name = right.get? name)
    (defaults : left.defaults = right.defaults) (overrides : left.overrides = right.overrides) :
    left = right := by
  have breakers : left.breakers = right.breakers := Table.ext_get? lookups
  cases left
  cases right
  congr

/-! ## Which providers have breakers, and which thresholds -/

theorem isSome_settle (outcome : Breaker.Outcome) :
    ((bank.settle provider outcome).bank.get? name).isSome =
      ((bank.get? name).isSome || decide (provider = name)) := by
  rw [settle, get?_put]
  split <;> simp [*]

theorem isSome_put_of_some {breaker : Breaker} (held : bank.get? provider = some breaker)
    (next : Breaker) (name : String) :
    ((bank.put provider next).get? name).isSome = (bank.get? name).isSome := by
  rw [get?_put]
  split
  · rename_i same
    rw [← same, held]
    rfl
  · rfl

theorem isSome_map {after : Bank} {change : String → Breaker → Breaker}
    (breakers : after.breakers = bank.breakers.map change) (name : String) :
    (after.get? name).isSome = (bank.get? name).isSome := by
  rw [get?_map breakers, Option.isSome_map]

/-- A provider has a breaker if it had one or was given one. -/
theorem isSome_apply (operation : BankOperation) (moment : Moment) (bank : Bank) (name : String) :
    ((bank.apply operation moment).bank.get? name).isSome =
      ((bank.get? name).isSome || operation.creates name) := by
  have keeps (unchanged : ((bank.apply operation moment).bank.get? name).isSome =
      (bank.get? name).isSome) : ((bank.apply operation moment).bank.get? name).isSome =
        ((bank.get? name).isSome || false) := by
    rw [unchanged, Bool.or_false]
  cases operation with
  | allow provider =>
      refine keeps ?_
      simp only [apply, allow]
      split
      · rename_i breaker held
        exact isSome_put_of_some held _ name
      · rfl
  | record provider succeeded => exact isSome_settle _
  | bypass provider succeeded => exact isSome_settle _
  | reset provider => exact isSome_settle _
  | resetAll => exact keeps (isSome_map (breakers_resetAll moment bank) name)
  | adopt provider openedWall => exact isSome_settle _
  | setDefault thresholds => exact keeps (isSome_map (breakers_setDefault thresholds bank) name)
  | setProvider provider thresholds =>
      exact keeps (isSome_map (breakers_setProvider provider thresholds bank) name)
  | snapshot provider =>
      refine keeps ?_
      simp only [apply, snapshot, quiet]
      split
      · rename_i breaker held
        exact isSome_put_of_some held _ name
      · rfl
  | snapshots => exact keeps (isSome_map (breakers_snapshots moment bank) name)

theorem thresholdsFor_apply {operation : BankOperation} (unset : ¬operation.Sets)
    (moment : Moment) (bank : Bank) (name : String) :
    (bank.apply operation moment).bank.thresholdsFor name = bank.thresholdsFor name := by
  cases operation with
  | allow provider =>
      simp only [apply, allow]
      split <;> rfl
  | snapshot provider =>
      simp only [apply, snapshot, quiet]
      split <;> rfl
  | record _ _ | bypass _ _ | reset _ | resetAll | adopt _ _ | snapshots => rfl
  | setDefault _ | setProvider _ _ => exact absurd trivial unset

/-! ## What becomes of a breaker -/

theorem getOrFresh_settle (operation : Operation) (moment : Moment) :
    (bank.settle provider ((bank.getOrFresh provider).apply operation moment)).bank.getOrFresh
        name =
      ((bank.getOrFresh name).undergo (if provider = name then some operation else none)
        moment).breaker := by
  rw [settle, getOrFresh_put]
  split
  · rename_i same
    rw [same]
    rfl
  · rfl

theorem getOrFresh_of_none (held : bank.get? name = none) :
    bank.getOrFresh name = .fresh (bank.thresholdsFor name) := by
  rw [getOrFresh, held]
  rfl

/-- An operation that leaves fresh breakers alone does nothing to a provider without a breaker. -/
theorem undergo_of_none (held : bank.get? provider = none) {operation : Operation}
    (idle : ∀ thresholds, ((Breaker.fresh thresholds).apply operation moment).breaker =
      .fresh thresholds) :
    ((bank.getOrFresh name).undergo (if provider = name then some operation else none)
      moment).breaker = bank.getOrFresh name := by
  split
  · rename_i same
    rw [getOrFresh_of_none (same ▸ held)]
    exact idle _
  · rfl

theorem getOrFresh_map {after : Bank} {change : String → Breaker → Breaker} (name : String)
    (breakers : after.breakers = bank.breakers.map change)
    (fresh : change name (.fresh (bank.thresholdsFor name)) = .fresh (after.thresholdsFor name)) :
    after.getOrFresh name = change name (bank.getOrFresh name) := by
  have found := get?_map breakers name
  cases held : bank.get? name with
  | none =>
      rw [held] at found
      rw [getOrFresh_of_none held, getOrFresh_of_none found, fresh]
  | some breaker =>
      rw [held] at found
      rw [getOrFresh_of_some held, getOrFresh_of_some found]

/-- The thresholds of a breaker that keeps to `thresholds` need not be set to them. -/
theorem setThresholds_self {breaker : Breaker} {thresholds : Thresholds}
    (same : breaker.thresholds = thresholds) : breaker.setThresholds thresholds = breaker := by
  subst same
  rfl

theorem getOrFresh_apply_of_unset {operation : BankOperation} (unset : ¬operation.Sets)
    (moment : Moment) (bank : Bank) (name : String) :
    (bank.apply operation moment).bank.getOrFresh name =
      ((bank.getOrFresh name).undergo (operation.on name) moment).breaker := by
  cases operation with
  | allow provider =>
      simp only [apply, allow, BankOperation.on]
      split
      · rename_i breaker held
        rw [← getOrFresh_of_some held]
        exact getOrFresh_settle .allow moment
      · rename_i held
        exact (undergo_of_none held fun _ => rfl).symm
  | record provider succeeded =>
      cases succeeded with
      | true => exact getOrFresh_settle .success moment
      | false => exact getOrFresh_settle .failure moment
  | bypass provider succeeded => exact getOrFresh_settle (.bypass succeeded) moment
  | reset provider => exact getOrFresh_settle .reset moment
  | resetAll => exact getOrFresh_map name (breakers_resetAll moment bank) rfl
  | adopt provider openedWall => exact getOrFresh_settle (.adopt openedWall) moment
  | snapshot provider =>
      simp only [apply, snapshot, BankOperation.on, quiet]
      split
      · rename_i breaker held
        rw [← getOrFresh_of_some held]
        exact getOrFresh_settle .snapshot moment
      · rename_i held
        exact (undergo_of_none held fun _ => rfl).symm
  | snapshots => exact getOrFresh_map name (breakers_snapshots moment bank) rfl
  | setDefault _ | setProvider _ _ => exact absurd trivial unset

theorem getOrFresh_setDefault (governed : bank.Governed) (thresholds : Thresholds)
    (name : String) :
    (bank.setDefault thresholds).getOrFresh name =
      (bank.getOrFresh name).setThresholds ((bank.setDefault thresholds).thresholdsFor name) := by
  have mapped := breakers_setDefault thresholds bank
  have fixed := governed.getOrFresh name
  cases own : bank.overrides.get? name with
  | none =>
      have default : bank.overrides.contains name = false := by rw [Table.contains, own]; rfl
      have after : (bank.setDefault thresholds).thresholdsFor name = thresholds := by
        rw [thresholdsFor, setDefault, own]
        rfl
      have moved := getOrFresh_map name mapped
      simp only [default, after] at moved ⊢
      exact moved rfl
  | some override =>
      have special : bank.overrides.contains name = true := by rw [Table.contains, own]; rfl
      have after : (bank.setDefault thresholds).thresholdsFor name = bank.thresholdsFor name := by
        rw [thresholdsFor, thresholdsFor, setDefault, own]
        rfl
      have moved := getOrFresh_map name mapped
      simp only [special, after, if_true] at moved ⊢
      rw [setThresholds_self fixed]
      exact moved trivial

theorem getOrFresh_setProvider (governed : bank.Governed) (provider : String)
    (thresholds : Thresholds) (name : String) :
    (bank.setProvider provider thresholds).getOrFresh name =
      (bank.getOrFresh name).setThresholds
        ((bank.setProvider provider thresholds).thresholdsFor name) := by
  have after : (bank.setProvider provider thresholds).thresholdsFor name =
      if name = provider then thresholds else bank.thresholdsFor name := by
    rw [thresholdsFor, thresholdsFor, setProvider, Table.get?_insert]
    by_cases same : name = provider
    · rw [if_pos same.symm, if_pos same]
      rfl
    · rw [if_neg (Ne.symm same), if_neg same]
  rw [getOrFresh_map name (breakers_setProvider provider thresholds bank), after]
  · split
    · rfl
    · exact (setThresholds_self (governed.getOrFresh name)).symm
  · rw [after]
    split <;> rfl

/-- A breaker undergoes what an operation does to it and follows the thresholds of its provider. -/
theorem getOrFresh_apply (governed : bank.Governed) (operation : BankOperation) (moment : Moment)
    (name : String) :
    (bank.apply operation moment).bank.getOrFresh name =
      ((bank.getOrFresh name).undergo (operation.on name) moment).breaker.setThresholds
        ((bank.apply operation moment).bank.thresholdsFor name) := by
  have unchanged (unset : ¬operation.Sets) :
      (bank.apply operation moment).bank.getOrFresh name =
        ((bank.getOrFresh name).undergo (operation.on name) moment).breaker.setThresholds
          ((bank.apply operation moment).bank.thresholdsFor name) := by
    rw [getOrFresh_apply_of_unset unset, thresholdsFor_apply unset, setThresholds_self]
    rw [Breaker.undergo_thresholds, governed.getOrFresh]
  cases operation with
  | setDefault thresholds => exact getOrFresh_setDefault governed thresholds name
  | setProvider provider thresholds =>
      exact getOrFresh_setProvider governed provider thresholds name
  | allow _ | record _ _ | bypass _ _ | reset _ | resetAll | adopt _ _ | snapshot _ | snapshots =>
      exact unchanged id

theorem governed_apply (governed : bank.Governed) (operation : BankOperation) (moment : Moment) :
    (bank.apply operation moment).bank.Governed := by
  intro name breaker held
  have becomes := getOrFresh_apply governed operation moment name
  rw [getOrFresh_of_some held] at becomes
  rw [becomes]
  rfl

/-! ## What is reported about a provider -/

theorem settle_on {operation : BankOperation} {step : Operation}
    (on : operation.on provider = some step)
    (settled : bank.apply operation moment =
      bank.settle provider ((bank.getOrFresh provider).apply step moment)) :
    (bank.apply operation moment).granted =
        ((bank.getOrFresh provider).undergo (operation.on provider) moment).granted ∧
      (bank.apply operation moment).events =
        ((bank.getOrFresh provider).undergo (operation.on provider) moment).notices.map
          (Event.mk provider) := by
  rw [settled, on]
  exact ⟨rfl, rfl⟩

/-- An operation on one breaker is granted, and reports, as the breaker has it. -/
theorem apply_of_provider {operation : BankOperation} (about : operation.provider? = some provider)
    (moment : Moment) (bank : Bank) :
    (bank.apply operation moment).granted =
        ((bank.getOrFresh provider).undergo (operation.on provider) moment).granted ∧
      (bank.apply operation moment).events =
        ((bank.getOrFresh provider).undergo (operation.on provider) moment).notices.map
          (Event.mk provider) := by
  cases operation with
  | allow owner =>
      obtain rfl := Option.some.inj about
      simp only [apply, allow, BankOperation.on, if_true]
      split
      · rename_i breaker held
        rw [getOrFresh_of_some held]
        exact ⟨rfl, rfl⟩
      · rename_i held
        rw [getOrFresh_of_none held]
        exact ⟨rfl, rfl⟩
  | record owner succeeded =>
      obtain rfl := Option.some.inj about
      refine settle_on (if_pos rfl) ?_
      cases succeeded <;> rfl
  | bypass owner succeeded =>
      obtain rfl := Option.some.inj about
      exact settle_on (if_pos rfl) rfl
  | reset owner =>
      obtain rfl := Option.some.inj about
      exact settle_on (if_pos rfl) rfl
  | adopt owner openedWall =>
      obtain rfl := Option.some.inj about
      exact settle_on (if_pos rfl) rfl
  | snapshot owner =>
      obtain rfl := Option.some.inj about
      simp only [apply, BankOperation.on, if_true]
      exact ⟨rfl, rfl⟩
  | resetAll | setDefault _ | setProvider _ _ | snapshots =>
      exact absurd about (Option.some_ne_none _).symm

theorem filter_told (provider name : String) (notices : List Notice) :
    (notices.map (Event.mk provider)).filter (·.provider = name) =
      if provider = name then notices.map (Event.mk name) else [] := by
  split
  · rename_i same
    subst same
    simp [List.filter_map, Function.comp_def]
  · simp [List.filter_map, Function.comp_def, *]

theorem filter_settle (operation : Operation) (moment : Moment) :
    (bank.settle provider ((bank.getOrFresh provider).apply operation moment)).events.filter
        (·.provider = name) =
      ((bank.getOrFresh name).undergo (if provider = name then some operation else none)
        moment).notices.map (Event.mk name) := by
  rw [settle]
  refine (filter_told provider name _).trans ?_
  split
  · rename_i same
    rw [same]
    rfl
  · rfl

theorem filter_flatMap {entries : List (String × Breaker)} (tell : Breaker → List Notice)
    (sorted : entries.Pairwise fun left right => left.1 < right.1) (name : String) :
    (entries.flatMap fun entry => (tell entry.2).map (Event.mk entry.1)).filter
        (·.provider = name) =
      ((Table.find name entries).map tell).elim [] (·.map (Event.mk name)) := by
  induction entries with
  | nil => rfl
  | cons head rest ih =>
      obtain ⟨below, tail⟩ := List.pairwise_cons.mp sorted
      rw [List.flatMap_cons, List.filter_append, filter_told, ih tail]
      by_cases same : head.1 = name
      · have missing : Table.find name rest = none := by
          refine Option.eq_none_iff_forall_ne_some.mpr fun breaker found => ?_
          exact ne_of_lt (below _ (Table.mem_of_find found)) same
        rw [if_pos same, missing]
        simp [Table.find, same]
      · rw [if_neg same]
        simp [Table.find, same]

/-- What is reported about a provider is what its breaker tells. -/
theorem filter_events (operation : BankOperation) (moment : Moment) (bank : Bank) (name : String) :
    (bank.apply operation moment).events.filter (·.provider = name) =
      ((bank.getOrFresh name).undergo (operation.on name) moment).notices.map (Event.mk name) := by
  cases operation with
  | allow provider =>
      simp only [apply, allow, BankOperation.on]
      split
      · rename_i breaker held
        rw [← getOrFresh_of_some held]
        exact filter_settle .allow moment
      · rename_i held
        split
        · rename_i same
          rw [getOrFresh_of_none (same ▸ held)]
          rfl
        · rfl
  | record provider succeeded =>
      cases succeeded with
      | true => exact filter_settle .success moment
      | false => exact filter_settle .failure moment
  | bypass provider succeeded => exact filter_settle (.bypass succeeded) moment
  | reset provider => exact filter_settle .reset moment
  | resetAll =>
      refine (filter_flatMap (fun breaker => (breaker.reset moment).notices)
        bank.breakers.sorted name).trans ?_
      change ((bank.get? name).map _).elim [] _ = _
      cases held : bank.get? name with
      | none =>
          rw [getOrFresh_of_none held]
          rfl
      | some breaker =>
          rw [getOrFresh_of_some held]
          rfl
  | adopt provider openedWall => exact filter_settle (.adopt openedWall) moment
  | setDefault thresholds => rfl
  | setProvider provider thresholds => rfl
  | snapshot provider =>
      simp only [apply, BankOperation.on, quiet]
      split <;> rfl
  | snapshots => rfl

/-! ## Asking and recording -/

theorem allow_of_denied (denied : (bank.allow provider moment).granted = false) :
    ∃ breaker, bank.get? provider = some breaker ∧ breaker.phase ≠ .closed ∧
      bank.allow provider moment = bank.settle provider breaker.reject := by
  cases held : bank.get? provider with
  | none => simp [allow, held] at denied
  | some breaker =>
      simp only [allow, held] at denied ⊢
      obtain ⟨barred, rejected⟩ := Breaker.allow_of_denied denied
      exact ⟨breaker, rfl, barred, by rw [rejected]⟩

theorem getOrFresh_allow (provider : String) (moment : Moment) (bank : Bank) (name : String) :
    (bank.allow provider moment).bank.getOrFresh name =
      if provider = name then ((bank.getOrFresh name).allow moment).breaker
      else bank.getOrFresh name := by
  have becomes : (bank.apply (.allow provider) moment).bank.getOrFresh name = _ :=
    getOrFresh_apply_of_unset id moment bank name
  refine becomes.trans ?_
  rw [BankOperation.on]
  split <;> rfl

theorem granted_allow (provider : String) (moment : Moment) (bank : Bank) :
    (bank.allow provider moment).granted =
      ((bank.getOrFresh provider).allow moment).granted := by
  have granted : (bank.apply (.allow provider) moment).granted = _ :=
    (apply_of_provider rfl moment bank).1
  rwa [BankOperation.on, if_pos rfl] at granted

theorem getOrFresh_record (provider : String) (succeeded : Bool) (moment : Moment) (bank : Bank)
    (name : String) :
    (bank.record provider succeeded moment).bank.getOrFresh name =
      if provider = name then
        ((bank.getOrFresh name).apply (if succeeded then .success else .failure) moment).breaker
      else bank.getOrFresh name := by
  have becomes : (bank.apply (.record provider succeeded) moment).bank.getOrFresh name = _ :=
    getOrFresh_apply_of_unset id moment bank name
  refine becomes.trans ?_
  rw [BankOperation.on]
  split <;> rfl

theorem getOrFresh_recordBypass (provider : String) (succeeded : Bool) (moment : Moment)
    (bank : Bank) (name : String) :
    (bank.recordBypass provider succeeded moment).bank.getOrFresh name =
      if provider = name then (bank.getOrFresh name).tally succeeded moment
      else bank.getOrFresh name := by
  rw [recordBypass, settle, getOrFresh_put]
  split
  · rename_i own
    rw [own]
    rfl
  · rfl

end Bank

end ProviderRouting
