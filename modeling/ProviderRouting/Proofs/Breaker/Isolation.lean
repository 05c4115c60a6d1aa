import ProviderRouting.Proofs.Breaker.Glances

/-!
# Isolation of providers

What a bank has of a provider is its breaker, its own thresholds and the default ones.  Operations
that name another provider leave that alone, and neither report nor show anything about it; all
others read nothing else in order to change it and to answer about it.  A provider therefore fares
in any use of a bank as it does in the steps that concern it.
-/

namespace ProviderRouting

/-- The provider that an operation names. -/
def BankOperation.named? : BankOperation → Option String
  | .allow provider | .record provider _ | .bypass provider _ => some provider
  | .reset provider | .adopt provider _ | .snapshot provider => some provider
  | .setProvider provider _ => some provider
  | .resetAll | .setDefault _ | .snapshots => none

theorem Table.filter_values {α : Type} (table : Table α) (label : α → String)
    (labelled : ∀ entry ∈ table.entries, label entry.2 = entry.1) (name : String) :
    table.values.filter (label · = name) = (table.get? name).toList := by
  obtain ⟨entries, sorted⟩ := table
  change (entries.map (·.2)).filter (label · = name) = (Table.find name entries).toList
  dsimp only at labelled
  induction entries with
  | nil => rfl
  | cons head rest ih =>
      obtain ⟨below, tail⟩ := List.pairwise_cons.mp sorted
      have others := ih tail fun entry member => labelled entry (List.mem_cons_of_mem _ member)
      have own : label head.2 = head.1 := labelled head List.mem_cons_self
      by_cases same : head.1 = name
      · -- the names that follow are larger
        have missing : Table.find name rest = none := by
          refine Option.eq_none_iff_forall_ne_some.mpr fun value found => ?_
          exact ne_of_lt (below _ (Table.mem_of_find found)) same
        rw [missing] at others
        simp [Table.find, own, same, others]
      · simp [Table.find, own, same, others]

/-- What a bank has of a provider. -/
structure Share where
  /-- The breaker, if there is one. -/
  breaker : Option Breaker
  /-- The thresholds set for the provider. -/
  own : Option Thresholds
  /-- The thresholds of providers without their own. -/
  defaults : Thresholds

namespace Bank

variable {bank left right : Bank} {name : String} {operation : BankOperation} {moment : Moment}

/-- What the bank has of a provider. -/
def share (name : String) (bank : Bank) : Share :=
  ⟨bank.get? name, bank.overrides.get? name, bank.defaults⟩

/-- Fetch the breaker of a provider, which comes into being if there is none. -/
def touch (provider : String) (bank : Bank) : Bank := bank.put provider (bank.getOrFresh provider)

/-! ## Equal shares -/

theorem get?_eq_of_share (alike : left.share name = right.share name) :
    left.get? name = right.get? name :=
  congrArg Share.breaker alike

theorem overrides_eq_of_share (alike : left.share name = right.share name) :
    left.overrides.get? name = right.overrides.get? name :=
  congrArg Share.own alike

theorem defaults_eq_of_share (alike : left.share name = right.share name) :
    left.defaults = right.defaults :=
  congrArg Share.defaults alike

theorem thresholdsFor_eq_of_share (alike : left.share name = right.share name) :
    left.thresholdsFor name = right.thresholdsFor name := by
  rw [thresholdsFor, thresholdsFor, overrides_eq_of_share alike, defaults_eq_of_share alike]

theorem getOrFresh_eq_of_share (alike : left.share name = right.share name) :
    left.getOrFresh name = right.getOrFresh name := by
  rw [getOrFresh, getOrFresh, get?_eq_of_share alike, thresholdsFor_eq_of_share alike]

/-! ## What operations do to a share -/

theorem get?_eq_ite (bank : Bank) (name : String) :
    bank.get? name = if (bank.get? name).isSome then some (bank.getOrFresh name) else none := by
  cases held : bank.get? name with
  | none => rfl
  | some breaker => simp [getOrFresh_of_some held]

theorem share_setDefault (thresholds : Thresholds) (bank : Bank) (name : String) :
    (bank.setDefault thresholds).share name =
      { breaker := (bank.get? name).map fun breaker =>
          if (bank.overrides.get? name).isSome then breaker else breaker.setThresholds thresholds
        own := bank.overrides.get? name
        defaults := thresholds } := by
  rw [share, get?_map (breakers_setDefault thresholds bank)]
  rfl

theorem share_setProvider (provider : String) (thresholds : Thresholds) (bank : Bank)
    (name : String) :
    (bank.setProvider provider thresholds).share name =
      { breaker := (bank.get? name).map fun breaker =>
          if name = provider then breaker.setThresholds thresholds else breaker
        own := if provider = name then some thresholds else bank.overrides.get? name
        defaults := bank.defaults } := by
  rw [share, get?_map (breakers_setProvider provider thresholds bank), setProvider,
    Table.get?_insert]

theorem share_apply_of_unset (unset : ¬operation.Sets) (moment : Moment) (bank : Bank)
    (name : String) :
    (bank.apply operation moment).bank.share name =
      { breaker :=
          if (bank.get? name).isSome || operation.creates name then
            some ((bank.getOrFresh name).undergo (operation.on name) moment).breaker
          else none
        own := bank.overrides.get? name
        defaults := bank.defaults } := by
  obtain ⟨defaults, overrides⟩ := policy_apply operation moment bank
  rw [share, get?_eq_ite, isSome_apply, getOrFresh_apply_of_unset unset, defaults, overrides]
  cases operation with
  | setDefault _ | setProvider _ _ => exact absurd trivial unset
  | allow _ | record _ _ | bypass _ _ | reset _ | resetAll | adopt _ _ | snapshot _ | snapshots =>
      rfl

/-- What an operation leaves of a provider depends on what there was of it. -/
theorem share_apply_congr (alike : left.share name = right.share name)
    (operation : BankOperation) (moment : Moment) :
    (left.apply operation moment).bank.share name =
      (right.apply operation moment).bank.share name := by
  have breaker := get?_eq_of_share alike
  have own := overrides_eq_of_share alike
  have defaults := defaults_eq_of_share alike
  have unchanged (unset : ¬operation.Sets) :
      (left.apply operation moment).bank.share name =
        (right.apply operation moment).bank.share name := by
    rw [share_apply_of_unset unset, share_apply_of_unset unset, breaker, own, defaults,
      getOrFresh_eq_of_share alike]
  cases operation with
  | setDefault thresholds =>
      change (left.setDefault thresholds).share name = (right.setDefault thresholds).share name
      rw [share_setDefault, share_setDefault, breaker, own]
  | setProvider provider thresholds =>
      change (left.setProvider provider thresholds).share name =
        (right.setProvider provider thresholds).share name
      rw [share_setProvider, share_setProvider, breaker, own, defaults]
  | allow _ | record _ _ | bypass _ _ | reset _ | resetAll | adopt _ _ | snapshot _ | snapshots =>
      exact unchanged id

theorem on_of_foreign (foreign : operation.named?.all (· = name) = false) :
    operation.on name = none ∧ operation.creates name = false := by
  cases operation with
  | allow _ | record _ _ | bypass _ _ | reset _ | adopt _ _ | snapshot _ | setProvider _ _ =>
      have other := of_decide_eq_false foreign
      simp [BankOperation.on, BankOperation.creates, other]
  | resetAll | setDefault _ | snapshots => exact absurd foreign.symm Bool.false_ne_true

/-- An operation on another provider leaves everything of a provider. -/
theorem share_apply_of_foreign (foreign : operation.named?.all (· = name) = false)
    (moment : Moment) (bank : Bank) :
    (bank.apply operation moment).bank.share name = bank.share name := by
  obtain ⟨on, creates⟩ := on_of_foreign foreign
  have untouched (unset : ¬operation.Sets) :
      (bank.apply operation moment).bank.share name = bank.share name := by
    rw [share_apply_of_unset unset, on, creates, Bool.or_false, share]
    congr
    exact (get?_eq_ite bank name).symm
  cases operation with
  | setProvider provider thresholds =>
      have other : provider ≠ name := of_decide_eq_false foreign
      refine (share_setProvider provider thresholds bank name).trans ?_
      simp [share, other, Ne.symm other]
  | allow _ | record _ _ | bypass _ _ | reset _ | adopt _ _ | snapshot _ => exact untouched id
  | resetAll | setDefault _ | snapshots => exact absurd foreign.symm Bool.false_ne_true

theorem share_touch_congr (alike : left.share name = right.share name) (provider : String) :
    (left.touch provider).share name = (right.touch provider).share name := by
  have own := overrides_eq_of_share alike
  have defaults := defaults_eq_of_share alike
  have breaker : (left.touch provider).get? name = (right.touch provider).get? name := by
    rw [touch, touch, get?_put, get?_put, get?_eq_of_share alike]
    split
    · rename_i same
      rw [same, getOrFresh_eq_of_share alike]
    · rfl
  simp only [share, breaker]
  exact congrArg₂ (Share.mk _) own defaults

theorem share_touch_of_ne {provider : String} (other : provider ≠ name) (bank : Bank) :
    (bank.touch provider).share name = bank.share name := by
  have breaker : (bank.touch provider).get? name = bank.get? name := by
    rw [touch, get?_put, if_neg other]
  rw [share, share, breaker]
  rfl

/-! ## What operations answer about a provider -/

theorem granted_congr (alike : left.share name = right.share name)
    (own : operation.named?.all (· = name) = true) (moment : Moment) :
    (left.apply operation moment).granted = (right.apply operation moment).granted := by
  have agree (about : operation.provider? = some name) :
      (left.apply operation moment).granted = (right.apply operation moment).granted := by
    rw [(apply_of_provider about moment left).1, (apply_of_provider about moment right).1,
      getOrFresh_eq_of_share alike]
  cases operation with
  | allow _ | record _ _ | bypass _ _ | reset _ | adopt _ _ | snapshot _ =>
      exact agree (congrArg some (of_decide_eq_true own))
  | resetAll | setDefault _ | setProvider _ _ | snapshots => rfl

/-- A look at a provider, or at all of them, shows the breaker that the provider has. -/
theorem filter_shown (operation : BankOperation) (moment : Moment) (bank : Bank) (name : String) :
    (bank.shown operation moment).filter (·.provider = name) =
      if operation.on name = some .snapshot then
        ((bank.get? name).map fun breaker => (breaker.prune moment).view name moment).toList
      else [] := by
  cases operation with
  | snapshot provider =>
      rw [shown_snapshot]
      by_cases same : provider = name
      · subst same
        cases bank.get? provider <;> simp [BankOperation.on, Breaker.view]
      · cases bank.get? provider <;> simp [BankOperation.on, Breaker.view, same]
  | snapshots =>
      have labelled : ∀ entry ∈ (bank.snapshots moment).2.entries, entry.2.provider = entry.1 := by
        intro entry member
        obtain ⟨original, -, rfl⟩ := List.mem_map.mp member
        rfl
      rw [shown, Table.filter_values _ BreakerSnapshot.provider labelled, snapshots]
      rw [Table.get?_map]
      rfl
  | record _ succeeded => cases succeeded <;> simp [shown, BankOperation.on]
  | allow _ | bypass _ _ | reset _ | resetAll | adopt _ _ => simp [shown, BankOperation.on]
  | setDefault _ | setProvider _ _ => rfl

end Bank

/-! ## Banks in use -/

/-- A step in the use of a bank. -/
inductive BankStep where
  /-- The monotonic reading moves forward; the wall may show anything. -/
  | pass (duration : Duration) (wall : Timestamp)
  /-- An operation is carried out. -/
  | perform (operation : BankOperation)
  /-- Somebody fetches the breaker of a provider. -/
  | touch (provider : String)

/-- Whether a step concerns a provider: it does not name another one. -/
def BankStep.concerns (name : String) : BankStep → Bool
  | .pass _ _ => true
  | .perform operation => operation.named?.all (· = name)
  | .touch provider => provider = name

/-- A bank in use. -/
structure BankUse where
  moment : Moment
  bank : Bank

/-- What a step means for a provider. -/
structure Bearing where
  step : BankStep
  granted : Bool
  /-- What is reported about the provider. -/
  events : List Event
  /-- What is shown of its breaker. -/
  shown : List BreakerSnapshot
  /-- The breaker afterwards. -/
  breaker : Option Breaker
  /-- The thresholds that apply afterwards. -/
  thresholds : Thresholds

namespace BankUse

variable {name : String} {own whole : BankUse} {step : BankStep}

/-- Take one step. -/
def next (use : BankUse) : BankStep → BankUse
  | .pass duration wall => { use with moment := ⟨use.moment.instant + duration, wall⟩ }
  | .perform operation => { use with bank := (use.bank.apply operation use.moment).bank }
  | .touch provider => { use with bank := use.bank.touch provider }

/-- Whether a step is granted. -/
def granted (use : BankUse) : BankStep → Bool
  | .perform operation => (use.bank.apply operation use.moment).granted
  | .pass _ _ | .touch _ => true

/-- What a step reports. -/
def events (use : BankUse) : BankStep → List Event
  | .perform operation => (use.bank.apply operation use.moment).events
  | .pass _ _ | .touch _ => []

/-- What a step shows. -/
def shown (use : BankUse) : BankStep → List BreakerSnapshot
  | .perform operation => use.bank.shown operation use.moment
  | .pass _ _ | .touch _ => []

/-- What a step would mean for a provider now. -/
def bearing (name : String) (use : BankUse) (step : BankStep) : Bearing where
  step := step
  granted := use.granted step
  events := (use.events step).filter (·.provider = name)
  shown := (use.shown step).filter (·.provider = name)
  breaker := (use.next step).bank.get? name
  thresholds := (use.next step).bank.thresholdsFor name

/-- The use of a bank through some steps. -/
def run (use : BankUse) (steps : List BankStep) : BankUse := steps.foldl next use

/-- What some steps mean for a provider, one after the other. -/
def bearings (name : String) (use : BankUse) : List BankStep → List Bearing
  | [] => []
  | step :: rest => use.bearing name step :: (use.next step).bearings name rest

/-- Two uses have the same of a provider at the same moment. -/
structure Alike (name : String) (own whole : BankUse) : Prop where
  clock : own.moment = whole.moment
  share : own.bank.share name = whole.bank.share name

theorem Alike.next (alike : Alike name own whole) (step : BankStep) :
    Alike name (own.next step) (whole.next step) := by
  obtain ⟨clock, share⟩ := alike
  cases step with
  | pass duration wall => exact ⟨by simp only [BankUse.next, clock], share⟩
  | perform operation =>
      refine ⟨clock, ?_⟩
      simp only [BankUse.next, clock]
      exact Bank.share_apply_congr share operation _
  | touch provider => exact ⟨clock, Bank.share_touch_congr share provider⟩

/-- A step that concerns the provider means the same for it in both uses. -/
theorem Alike.bearing_eq (alike : Alike name own whole) (concerns : step.concerns name = true) :
    own.bearing name step = whole.bearing name step := by
  have after := (alike.next step).share
  have breaker := Bank.get?_eq_of_share after
  have thresholds := Bank.thresholdsFor_eq_of_share after
  cases step with
  | pass duration wall => simp only [bearing, breaker, thresholds, granted, events, shown]
  | touch provider => simp only [bearing, breaker, thresholds, granted, events, shown]
  | perform operation =>
      obtain ⟨clock, share⟩ := alike
      simp only [bearing, breaker, thresholds, granted, events, shown, clock,
        Bank.granted_congr share concerns, Bank.filter_events, Bank.filter_shown,
        Bank.getOrFresh_eq_of_share share, Bank.get?_eq_of_share share]

/-- A step that names another provider passes without a trace. -/
theorem Alike.skip (alike : Alike name own whole) (foreign : step.concerns name = false) :
    Alike name own (whole.next step) ∧ (whole.bearing name step).events = [] ∧
      (whole.bearing name step).shown = [] := by
  cases step with
  | pass duration wall => exact absurd foreign.symm Bool.false_ne_true
  | touch provider =>
      have other : provider ≠ name := of_decide_eq_false foreign
      exact ⟨⟨alike.clock, alike.share.trans (Bank.share_touch_of_ne other _).symm⟩, rfl, rfl⟩
  | perform operation =>
      have kept := Bank.share_apply_of_foreign foreign whole.moment whole.bank
      have on := (Bank.on_of_foreign foreign).1
      refine ⟨⟨alike.clock, alike.share.trans kept.symm⟩, ?_, ?_⟩
      · simp [bearing, events, Bank.filter_events, on, Breaker.keep]
      · simp [bearing, shown, Bank.filter_shown, on]

theorem Alike.run (alike : Alike name own whole) (steps : List BankStep) :
    Alike name (own.run (steps.filter (·.concerns name))) (whole.run steps) := by
  -- both uses take a step that concerns the provider; only `whole` takes any other
  induction steps generalizing own whole with
  | nil => exact alike
  | cons step rest ih =>
      cases concerns : step.concerns name with
      | true =>
          rw [List.filter_cons_of_pos concerns]
          exact ih (alike.next step)
      | false =>
          rw [List.filter_cons_of_neg (by simp [concerns])]
          exact ih (alike.skip concerns).1

theorem step_bearing (use : BankUse) (step : BankStep) : (use.bearing name step).step = step :=
  rfl

theorem Alike.bearings_eq (alike : Alike name own whole) (steps : List BankStep) :
    own.bearings name (steps.filter (·.concerns name)) =
      (whole.bearings name steps).filter (·.step.concerns name) := by
  induction steps generalizing own whole with
  | nil => rfl
  | cons step rest ih =>
      cases concerns : step.concerns name with
      | true =>
          rw [List.filter_cons_of_pos concerns, bearings, bearings,
            List.filter_cons_of_pos (by simpa [step_bearing] using concerns),
            alike.bearing_eq concerns, ih (alike.next step)]
      | false =>
          rw [List.filter_cons_of_neg (by simp [concerns]), bearings,
            List.filter_cons_of_neg (by simp [step_bearing, concerns]), ih (alike.skip concerns).1]

theorem Alike.events_eq (alike : Alike name own whole) (steps : List BankStep) :
    (own.bearings name (steps.filter (·.concerns name))).flatMap (·.events) =
      (whole.bearings name steps).flatMap (·.events) := by
  induction steps generalizing own whole with
  | nil => rfl
  | cons step rest ih =>
      cases concerns : step.concerns name with
      | true =>
          rw [List.filter_cons_of_pos concerns, bearings, bearings, List.flatMap_cons,
            List.flatMap_cons, alike.bearing_eq concerns, ih (alike.next step)]
      | false =>
          obtain ⟨still, silent, -⟩ := alike.skip concerns
          rw [List.filter_cons_of_neg (by simp [concerns]), bearings, List.flatMap_cons, silent,
            List.nil_append, ih still]

/-- Whatever a bank holds and whatever is done with it, the steps that name other providers can be
left out without a change for a provider: each of its own steps, and each that names none, is
granted, reports and shows the same about it and leaves it the same breaker and thresholds, and
nothing else is reported about it. -/
theorem isolation_law (name : String) (use : BankUse) (steps : List BankStep) :
    let alone := steps.filter (·.concerns name)
    use.bearings name alone = (use.bearings name steps).filter (·.step.concerns name) ∧
      (use.bearings name alone).flatMap (·.events) =
        (use.bearings name steps).flatMap (·.events) ∧
      (use.run alone).bank.get? name = (use.run steps).bank.get? name ∧
      (use.run alone).bank.thresholdsFor name = (use.run steps).bank.thresholdsFor name := by
  intro alone
  have alike : Alike name use use := ⟨rfl, rfl⟩
  have share := (alike.run steps).share
  exact ⟨alike.bearings_eq steps, alike.events_eq steps, Bank.get?_eq_of_share share,
    Bank.thresholdsFor_eq_of_share share⟩

end BankUse

end ProviderRouting
