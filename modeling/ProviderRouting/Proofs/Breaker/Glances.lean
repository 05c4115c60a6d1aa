import Mathlib.Data.List.TakeWhile
import Mathlib.Tactic.Common
import ProviderRouting.Proofs.Breaker.Dispatch

/-!
# Looking at breakers

To look at a breaker prunes its window.  A look that is put into a run of operations goes unnoticed
as long as windows are not widened: what it dropped would be dropped by the next operation that
reads the window anyway.  An outcome that was dropped by a look and would have been young enough for
a wider window, set afterwards, is lost.
-/

namespace ProviderRouting

/-! ## Windows that were looked at -/

namespace Window

variable {gone : Sample → Prop} {whole seen : Window} {horizon : Duration} {now : Int}

/-- A window that was looked at lacks some of the oldest outcomes of the whole one. -/
structure Veils (gone : Sample → Prop) (whole seen : Window) : Prop where
  split : ∃ dropped, whole.samples = dropped ++ seen.samples ∧ ∀ sample ∈ dropped, gone sample
  bounded : whole.size ≤ capacity

theorem Veils.refl (bounded : whole.size ≤ capacity) : whole.Veils gone whole :=
  ⟨⟨[], rfl, by simp⟩, bounded⟩

theorem Veils.imp {also : Sample → Prop} (veils : whole.Veils gone seen)
    (implies : ∀ sample, gone sample → also sample) : whole.Veils also seen := by
  obtain ⟨⟨dropped, same, old⟩, bounded⟩ := veils
  exact ⟨⟨dropped, same, fun sample member => implies sample (old sample member)⟩, bounded⟩

theorem size_prune_le (window : Window) : (window.prune horizon now).size ≤ window.size :=
  (List.dropWhile_sublist _).length_le

theorem size_push_le (sample : Sample) (bounded : whole.size ≤ capacity) :
    (whole.push sample).size ≤ capacity := by
  unfold size at bounded
  simp only [push, size]
  split
  · simpa using bounded
  · omega

theorem size_record_le (succeeded : Bool) (bounded : whole.size ≤ capacity) :
    (whole.record horizon now succeeded).size ≤ capacity :=
  Nat.le_trans (size_prune_le _) (size_push_le _ bounded)

/-- Pruning drops what the looks have dropped, if it is too old by now. -/
theorem prune_of_gone {dropped kept : List Sample}
    (old : ∀ sample ∈ dropped, horizon < elapsedSince now sample.instant) :
    prune horizon now ⟨dropped ++ kept⟩ = prune horizon now ⟨kept⟩ := by
  unfold prune
  rw [List.dropWhile_append_of_pos]
  intro sample member
  exact decide_eq_true (old sample member)

theorem Veils.prune_eq (veils : whole.Veils gone seen)
    (old : ∀ sample, gone sample → horizon < elapsedSince now sample.instant) :
    whole.prune horizon now = seen.prune horizon now := by
  obtain ⟨⟨dropped, same, among⟩, -⟩ := veils
  have restored : whole = ⟨dropped ++ seen.samples⟩ := congrArg Window.mk same
  rw [restored]
  exact prune_of_gone fun sample member => old sample (among sample member)

theorem Veils.record_eq (veils : whole.Veils gone seen)
    (old : ∀ sample, gone sample → horizon < elapsedSince now sample.instant)
    (succeeded : Bool) :
    whole.record horizon now succeeded = seen.record horizon now succeeded := by
  obtain ⟨⟨dropped, same, among⟩, bounded⟩ := veils
  have restored : whole = ⟨dropped ++ seen.samples⟩ := congrArg Window.mk same
  have tooOld (sample) (member : sample ∈ dropped) : horizon < elapsedSince now sample.instant :=
    old sample (among sample member)
  cases dropped with
  | nil => rw [restored]; rfl
  | cons oldest dropped =>
      -- the window that was looked at has room, and of the whole one only dropped ones are pushed
      -- out
      have length : whole.size = dropped.length + 1 + seen.samples.length := by
        rw [restored]
        simp [size, Nat.add_right_comm]
      have added : seen.push ⟨now, succeeded⟩ = ⟨seen.samples ++ [⟨now, succeeded⟩]⟩ := by
        rw [push, if_neg]
        rw [List.length_append, List.length_singleton]
        omega
      rw [restored, record, record, added, push, List.append_assoc]
      split
      · exact prune_of_gone fun sample member => tooOld sample (List.mem_cons_of_mem _ member)
      · exact prune_of_gone tooOld

/-- A look drops what is too old. -/
theorem Veils.glance (veils : whole.Veils gone seen)
    (old : ∀ sample, horizon < elapsedSince now sample.instant → gone sample) :
    whole.Veils gone (seen.prune horizon now) := by
  obtain ⟨⟨dropped, same, among⟩, bounded⟩ := veils
  let tooOld : Sample → Bool := fun sample => horizon < elapsedSince now sample.instant
  refine ⟨⟨dropped ++ seen.samples.takeWhile tooOld, ?_, ?_⟩, bounded⟩
  · rw [same, List.append_assoc]
    exact congrArg _ List.takeWhile_append_dropWhile.symm
  · intro sample member
    rcases List.mem_append.mp member with earlier | looked
    · exact among sample earlier
    · have passes : tooOld sample = true := List.mem_takeWhile_imp looked
      exact old sample (of_decide_eq_true passes)

end Window

/-! ## Breakers that were looked at -/

namespace Breaker

variable {gone : Sample → Prop} {plain seen : Breaker} {moment : Moment}

/-- Whether an operation reads the window. -/
def Operation.reads : Operation → Bool
  | .success | .failure | .bypass _ | .snapshot => true
  | .allow | .adopt _ | .reset => false

/-- The breaker with another window. -/
def withWindow (window : Window) (breaker : Breaker) : Breaker := { breaker with window := window }

theorem allow_withWindow (window : Window) (moment : Moment) (breaker : Breaker) :
    (breaker.withWindow window).allow moment =
      { breaker.allow moment with
        breaker := (breaker.allow moment).breaker.withWindow window } := by
  have phase : (breaker.withWindow window).phase = breaker.phase := rfl
  have due : (breaker.withWindow window).due moment.instant = breaker.due moment.instant := rfl
  have probing : (breaker.withWindow window).probing moment.instant =
    breaker.probing moment.instant := rfl
  simp only [allow, phase, due, probing]
  split
  · rfl
  · split <;> rfl
  · split <;> rfl

theorem adopt_withWindow (window : Window) (openedWall : Timestamp) (moment : Moment)
    (breaker : Breaker) :
    (breaker.withWindow window).adopt openedWall moment =
      { breaker.adopt openedWall moment with
        breaker := (breaker.adopt openedWall moment).breaker.withWindow window } := by
  have phase : (breaker.withWindow window).phase = breaker.phase := rfl
  have lastChange : (breaker.withWindow window).lastChange = breaker.lastChange := rfl
  have thresholds : (breaker.withWindow window).thresholds = breaker.thresholds := rfl
  simp only [adopt, phase, lastChange, thresholds]
  split_ifs <;> rfl

theorem window_allow (moment : Moment) (breaker : Breaker) :
    (breaker.allow moment).breaker.window = breaker.window := by
  simp only [allow]
  split
  · rfl
  · split <;> rfl
  · split <;> rfl

theorem window_adopt (openedWall : Timestamp) (moment : Moment) (breaker : Breaker) :
    (breaker.adopt openedWall moment).breaker.window = breaker.window := by
  rcases adopt_cases openedWall moment breaker with refused | ⟨-, adopted⟩
  · rw [refused]
  · rw [adopted]
    rfl

/-- A breaker that was looked at differs from another one in the window only. -/
def Veils (gone : Sample → Prop) (plain seen : Breaker) : Prop :=
  ∃ window, plain.window.Veils gone window ∧ seen = plain.withWindow window

theorem Veils.imp {also : Sample → Prop} (veils : plain.Veils gone seen)
    (implies : ∀ sample, gone sample → also sample) : plain.Veils also seen := by
  obtain ⟨window, within, rfl⟩ := veils
  exact ⟨window, within.imp implies, rfl⟩

theorem Veils.refl (bounded : plain.window.size ≤ Window.capacity) : plain.Veils gone plain :=
  ⟨plain.window, .refl bounded, rfl⟩

theorem size_window_le (operation : Operation) (moment : Moment)
    (bounded : plain.window.size ≤ Window.capacity) :
    (plain.apply operation moment).breaker.window.size ≤ Window.capacity := by
  have counted (succeeded : Bool) :
      (plain.tally succeeded moment).window.size ≤ Window.capacity :=
    Window.size_record_le succeeded bounded
  have empty : Window.empty.size ≤ Window.capacity := Nat.zero_le _
  cases operation with
  | allow => rwa [apply, window_allow]
  | success =>
      simp only [apply, recordSuccess]
      split
      · exact counted true
      · split
        · exact empty
        · exact counted true
      · exact counted true
  | failure =>
      simp only [apply, recordFailure]
      split
      · split <;> exact counted false
      · exact counted false
      · exact counted false
  | bypass succeeded => exact counted succeeded
  | snapshot => exact Nat.le_trans (Window.size_prune_le _) bounded
  | adopt openedWall => rwa [apply, window_adopt]
  | reset =>
      simp only [apply, reset]
      split <;> exact empty

/-- An operation that reads the window finds the same in both breakers. -/
theorem Veils.apply_eq (veils : plain.Veils gone seen) {operation : Operation}
    (reads : operation.reads = true)
    (old : ∀ sample, gone sample →
      plain.thresholds.horizon < elapsedSince moment.instant sample.instant) :
    plain.apply operation moment = seen.apply operation moment := by
  obtain ⟨window, within, rfl⟩ := veils
  have counted (succeeded : Bool) :
      (plain.withWindow window).tally succeeded moment = plain.tally succeeded moment := by
    simp only [tally, withWindow, within.record_eq old]
  cases operation with
  | success =>
      simp only [apply, recordSuccess, counted]
      rfl
  | failure =>
      simp only [apply, recordFailure, counted]
      rfl
  | bypass succeeded => simp only [apply, recordBypass, counted]
  | snapshot => simp only [apply, prune, withWindow, within.prune_eq old]
  | allow | adopt _ | reset => exact absurd reads Bool.false_ne_true

/-- No operation tells two such breakers apart, if it finds what the looks have dropped too old. -/
theorem Veils.apply (veils : plain.Veils gone seen) (operation : Operation) (moment : Moment)
    (old : operation.reads = true → ∀ sample, gone sample →
      plain.thresholds.horizon < elapsedSince moment.instant sample.instant) :
    (plain.apply operation moment).granted = (seen.apply operation moment).granted ∧
      (plain.apply operation moment).notices = (seen.apply operation moment).notices ∧
      (plain.apply operation moment).breaker.Veils
        (fun sample => gone sample ∧ operation.reads = false)
        (seen.apply operation moment).breaker := by
  have bounded : plain.window.size ≤ Window.capacity := veils.choose_spec.1.bounded
  cases reads : operation.reads with
  | true =>
      rw [← veils.apply_eq reads (old reads)]
      exact ⟨rfl, rfl, .refl (size_window_le operation moment bounded)⟩
  | false =>
      obtain ⟨window, within, rfl⟩ := veils
      have still : plain.window.Veils (fun sample => gone sample ∧ false = false) window :=
        within.imp fun _ old => ⟨old, rfl⟩
      cases operation with
      | allow =>
          rw [Breaker.apply, Breaker.apply, allow_withWindow]
          exact ⟨rfl, rfl, window, (window_allow moment plain).symm ▸ still, rfl⟩
      | adopt openedWall =>
          rw [Breaker.apply, Breaker.apply, adopt_withWindow]
          exact ⟨rfl, rfl, window, (window_adopt openedWall moment plain).symm ▸ still, rfl⟩
      | reset =>
          have same : (plain.withWindow window).apply .reset moment = plain.apply .reset moment :=
            rfl
          rw [same]
          exact ⟨rfl, rfl, .refl (size_window_le .reset moment bounded)⟩
      | success | failure | bypass _ | snapshot => exact absurd reads.symm Bool.false_ne_true

/-- A look leaves a breaker without what is too old. -/
theorem Veils.glance (veils : plain.Veils gone seen)
    (old : ∀ sample, plain.thresholds.horizon < elapsedSince moment.instant sample.instant →
      gone sample) :
    plain.Veils gone (seen.apply .snapshot moment).breaker := by
  obtain ⟨window, within, rfl⟩ := veils
  exact ⟨_, within.glance old, rfl⟩

end Breaker

/-! ## Banks that were looked at -/

/-- Whether an operation reads the window of a provider's breaker. -/
def BankOperation.reads (operation : BankOperation) (name : String) : Bool :=
  (operation.on name).any Breaker.Operation.reads

namespace Bank

variable {gone : String → Sample → Prop} {plain seen : Bank}

/-- What an operation shows of the breakers at which it looks. -/
def shown (operation : BankOperation) (moment : Moment) (bank : Bank) :
    List BreakerSnapshot :=
  match operation with
  | .snapshot provider => (bank.snapshot provider moment).2.toList
  | .snapshots => (bank.snapshots moment).2.values
  | .allow _ | .record _ _ | .bypass _ _ | .reset _ | .resetAll | .adopt _ _ => []
  | .setDefault _ | .setProvider _ _ => []

/-- The phases of all breakers. -/
def phases (bank : Bank) : Table Phase := bank.breakers.map fun _ breaker => breaker.phase

/-- A bank that was looked at differs from another one in windows only. -/
structure Veils (gone : String → Sample → Prop) (plain seen : Bank) : Prop where
  defaults : seen.defaults = plain.defaults
  overrides : seen.overrides = plain.overrides
  held : ∀ name, (seen.get? name).isSome = (plain.get? name).isSome
  breaker : ∀ name, (plain.getOrFresh name).Veils (gone name) (seen.getOrFresh name)

theorem Veils.thresholdsFor (veils : plain.Veils gone seen) (name : String) :
    seen.thresholdsFor name = plain.thresholdsFor name := by
  rw [Bank.thresholdsFor, Bank.thresholdsFor, veils.defaults, veils.overrides]

theorem Veils.imp {also : String → Sample → Prop} (veils : plain.Veils gone seen)
    (implies : ∀ name sample, gone name sample → also name sample) : plain.Veils also seen :=
  ⟨veils.defaults, veils.overrides, veils.held, fun name => (veils.breaker name).imp (implies name)⟩

theorem veils_ofDefaults (thresholds : Thresholds) :
    (ofDefaults thresholds).Veils gone (ofDefaults thresholds) :=
  ⟨rfl, rfl, fun _ => rfl, fun _ => .refl (Nat.zero_le _)⟩

theorem map_get?_eq {β : Type} (show_ : Breaker → β) (veils : plain.Veils gone seen) {name : String}
    (same : show_ (seen.getOrFresh name) = show_ (plain.getOrFresh name)) :
    (seen.get? name).map show_ = (plain.get? name).map show_ := by
  have held := veils.held name
  cases before : plain.get? name with
  | none =>
      rw [before] at held
      rw [Option.not_isSome_iff_eq_none.mp (ne_true_of_eq_false held)]
  | some breaker =>
      rw [before] at held
      obtain ⟨other, looked⟩ := Option.isSome_iff_exists.mp held
      rw [getOrFresh_of_some before, getOrFresh_of_some looked] at same
      rw [looked, Option.map_some, Option.map_some, same]

/-- Tables made from the breakers are equal if they are made from what is equal. -/
theorem map_breakers_eq {β : Type} (show_ : String → Breaker → β) (veils : plain.Veils gone seen)
    (same : ∀ name, show_ name (seen.getOrFresh name) = show_ name (plain.getOrFresh name)) :
    seen.breakers.map show_ = plain.breakers.map show_ := by
  refine Table.ext_get? fun name => ?_
  rw [Table.get?_map, Table.get?_map]
  exact map_get?_eq (show_ name) veils (same name)

theorem Veils.phase_eq (veils : plain.Veils gone seen) (name : String) :
    (seen.getOrFresh name).phase = (plain.getOrFresh name).phase := by
  obtain ⟨window, -, same⟩ := veils.breaker name
  rw [same]
  rfl

theorem Veils.phases_eq (veils : plain.Veils gone seen) : seen.phases = plain.phases :=
  map_breakers_eq (fun _ => Breaker.phase) veils veils.phase_eq

variable {operation : BankOperation} {moment : Moment}

/-- What the looks have dropped is too old for an operation wherever it reads. -/
def Outdated (gone : String → Sample → Prop) (bank : Bank) (operation : BankOperation)
    (moment : Moment) : Prop :=
  ∀ name, operation.reads name = true → ∀ sample, gone name sample →
    (bank.thresholdsFor name).horizon < elapsedSince moment.instant sample.instant

theorem policy_apply (operation : BankOperation) (moment : Moment) (bank : Bank) :
    (bank.apply operation moment).bank.defaults =
        (match operation with
          | .setDefault thresholds => thresholds
          | _ => bank.defaults) ∧
      (bank.apply operation moment).bank.overrides =
        match operation with
        | .setProvider provider thresholds => bank.overrides.insert provider thresholds
        | _ => bank.overrides := by
  cases operation with
  | allow provider =>
      simp only [apply, allow]
      split <;> exact ⟨rfl, rfl⟩
  | snapshot provider =>
      simp only [apply, snapshot, quiet]
      split <;> exact ⟨rfl, rfl⟩
  | record _ _ | bypass _ _ | reset _ | resetAll | adopt _ _ | snapshots => exact ⟨rfl, rfl⟩
  | setDefault _ | setProvider _ _ => exact ⟨rfl, rfl⟩

/-- What a breaker undergoes goes the same way whether it was looked at or not. -/
theorem Veils.undergo (veils : plain.Veils gone seen) (governed : plain.Governed)
    (old : plain.Outdated gone operation moment) (name : String) :
    ((plain.getOrFresh name).undergo (operation.on name) moment).granted =
        ((seen.getOrFresh name).undergo (operation.on name) moment).granted ∧
      ((plain.getOrFresh name).undergo (operation.on name) moment).notices =
        ((seen.getOrFresh name).undergo (operation.on name) moment).notices ∧
      ((plain.getOrFresh name).undergo (operation.on name) moment).breaker.Veils
        (fun sample => gone name sample ∧ operation.reads name = false)
        ((seen.getOrFresh name).undergo (operation.on name) moment).breaker := by
  have outdated := old name
  rw [← governed.getOrFresh] at outdated
  unfold BankOperation.reads at outdated ⊢
  cases on : operation.on name with
  | none => exact ⟨rfl, rfl, (veils.breaker name).imp fun _ old => ⟨old, rfl⟩⟩
  | some step =>
      rw [on] at outdated
      exact (veils.breaker name).apply step moment outdated

theorem Veils.apply (veils : plain.Veils gone seen) (governed : plain.Governed)
    (governed' : seen.Governed) (old : plain.Outdated gone operation moment) :
    (plain.apply operation moment).bank.Veils
      (fun name sample => gone name sample ∧ operation.reads name = false)
      (seen.apply operation moment).bank := by
  obtain ⟨defaults, overrides⟩ := policy_apply operation moment plain
  obtain ⟨defaults', overrides'⟩ := policy_apply operation moment seen
  have sameDefaults : (seen.apply operation moment).bank.defaults =
      (plain.apply operation moment).bank.defaults := by
    rw [defaults, defaults', veils.defaults]
  have sameOverrides : (seen.apply operation moment).bank.overrides =
      (plain.apply operation moment).bank.overrides := by
    rw [overrides, overrides', veils.overrides]
  refine ⟨sameDefaults, sameOverrides, fun name => ?_, fun name => ?_⟩
  · rw [isSome_apply, isSome_apply, veils.held]
  · have thresholds : (seen.apply operation moment).bank.thresholdsFor name =
        (plain.apply operation moment).bank.thresholdsFor name := by
      rw [Bank.thresholdsFor, Bank.thresholdsFor, sameDefaults, sameOverrides]
    obtain ⟨-, -, window, within, same⟩ := veils.undergo governed old name
    rw [getOrFresh_apply governed, getOrFresh_apply governed', thresholds, same]
    exact ⟨window, within, rfl⟩

theorem Veils.granted_eq (veils : plain.Veils gone seen) (governed : plain.Governed)
    (old : plain.Outdated gone operation moment) :
    (seen.apply operation moment).granted = (plain.apply operation moment).granted := by
  cases about : operation.provider? with
  | none =>
      cases operation with
      | resetAll | setDefault _ | setProvider _ _ | snapshots => rfl
      | allow _ | record _ _ | bypass _ _ | reset _ | adopt _ _ | snapshot _ =>
          exact absurd about (Option.some_ne_none _)
  | some provider =>
      rw [(apply_of_provider about moment seen).1, (apply_of_provider about moment plain).1]
      exact (veils.undergo governed old provider).1.symm

theorem Veils.events_eq (veils : plain.Veils gone seen) (governed : plain.Governed)
    (old : plain.Outdated gone operation moment) :
    (seen.apply operation moment).events = (plain.apply operation moment).events := by
  cases about : operation.provider? with
  | none =>
      cases operation with
      | resetAll =>
          have same (name : String) : ((seen.getOrFresh name).reset moment).notices =
              ((plain.getOrFresh name).reset moment).notices :=
            (veils.undergo governed old name).2.1.symm
          have told := congrArg Table.entries
            (map_breakers_eq (fun _ breaker => (breaker.reset moment).notices) veils same)
          have all := congrArg (List.flatMap fun entry => entry.2.map (Event.mk entry.1)) told
          simp only [Table.map, List.flatMap_map] at all
          exact all
      | setDefault _ | setProvider _ _ | snapshots => rfl
      | allow _ | record _ _ | bypass _ _ | reset _ | adopt _ _ | snapshot _ =>
          exact absurd about (Option.some_ne_none _)
  | some provider =>
      rw [(apply_of_provider about moment seen).2, (apply_of_provider about moment plain).2]
      exact congrArg _ (veils.undergo governed old provider).2.1.symm

theorem shown_snapshot (provider : String) (moment : Moment) (bank : Bank) :
    bank.shown (.snapshot provider) moment =
      ((bank.get? provider).map fun breaker =>
        (breaker.prune moment).view provider moment).toList := by
  simp only [shown, snapshot]
  cases bank.get? provider <;> rfl

theorem Veils.shown_eq (veils : plain.Veils gone seen) (governed : plain.Governed)
    (old : plain.Outdated gone operation moment) :
    seen.shown operation moment = plain.shown operation moment := by
  have pruned (name : String) (reads : operation.reads name = true) :
      (seen.getOrFresh name).prune moment = (plain.getOrFresh name).prune moment := by
    have outdated := old name reads
    rw [← governed.getOrFresh] at outdated
    have same : (plain.getOrFresh name).apply .snapshot moment =
        (seen.getOrFresh name).apply .snapshot moment :=
      (veils.breaker name).apply_eq rfl outdated
    exact congrArg Breaker.Outcome.breaker same.symm
  cases operation with
  | snapshot provider =>
      have reads : BankOperation.reads (.snapshot provider) provider = true := by
        simp [BankOperation.reads, BankOperation.on, Breaker.Operation.reads]
      have viewed := map_get?_eq
        (fun breaker => (breaker.prune moment).view provider moment) veils
        (congrArg (·.view provider moment) (pruned provider reads))
      rw [shown_snapshot, shown_snapshot, viewed]
  | snapshots =>
      have viewed := map_breakers_eq (fun name breaker => (breaker.snapshot name moment).2) veils
        fun name => congrArg (·.view name moment) (pruned name rfl)
      exact congrArg Table.values viewed
  | allow _ | record _ _ | bypass _ _ | reset _ | resetAll | adopt _ _ => rfl
  | setDefault _ | setProvider _ _ => rfl

/-- The operation by which somebody looks at the breaker of one provider, or at all of them. -/
def look : Option String → BankOperation
  | some provider => .snapshot provider
  | none => .snapshots

theorem on_look (provider : Option String) (name : String) :
    (look provider).on name = none ∨ (look provider).on name = some .snapshot := by
  cases provider with
  | none => exact .inr rfl
  | some provider =>
      simp only [look, BankOperation.on]
      split
      · exact .inr rfl
      · exact .inl rfl

theorem Veils.look (veils : plain.Veils gone seen) (governed : plain.Governed)
    (provider : Option String)
    (old : ∀ name, (look provider).reads name = true → ∀ sample,
      (plain.thresholdsFor name).horizon < elapsedSince moment.instant sample.instant →
        gone name sample) :
    plain.Veils gone (seen.apply (look provider) moment).bank := by
  have unset : ¬(Bank.look provider).Sets := by cases provider <;> exact id
  have kept (name : String) : (Bank.look provider).creates name = false := by
    cases provider <;> rfl
  obtain ⟨defaults, overrides⟩ := policy_apply (Bank.look provider) moment seen
  refine ⟨defaults.trans ?_, overrides.trans ?_, fun name => ?_, fun name => ?_⟩
  · cases provider <;> exact veils.defaults
  · cases provider <;> exact veils.overrides
  · rw [isSome_apply, kept, Bool.or_false, veils.held]
  · rw [getOrFresh_apply_of_unset unset]
    rcases on_look provider name with on | on
    · rw [on]
      exact veils.breaker name
    · have reads : (Bank.look provider).reads name = true := by
        rw [BankOperation.reads, on]
        rfl
      have outdated := old name reads
      rw [← governed.getOrFresh] at outdated
      rw [on]
      exact (veils.breaker name).glance outdated

end Bank

/-! ## Runs with looks -/

/-- What comes of an operation. -/
structure Finding where
  granted : Bool
  events : List Event
  shown : List BreakerSnapshot
  /-- The phases of all breakers afterwards. -/
  phases : Table Phase

/-- A bank in use, with what has come of the operations so far. -/
structure Survey where
  moment : Moment
  bank : Bank
  findings : List Finding

/-- A step in the use of a bank. -/
inductive SurveyStep where
  /-- The monotonic reading moves forward; the wall may show anything. -/
  | pass (duration : Duration) (wall : Timestamp)
  /-- An operation is carried out. -/
  | perform (operation : BankOperation)
  /-- Somebody looks at the breaker of a provider or at all of them, which no one counts on. -/
  | look (provider : Option String)

namespace SurveyStep

/-- Whether the step belongs to the run without looks. -/
def isCounted : SurveyStep → Bool
  | .pass _ _ | .perform _ => true
  | .look _ => false

/-- Whether the step reads the window of a provider's breaker in both runs. -/
def reads (name : String) : SurveyStep → Bool
  | .perform operation => operation.reads name
  | .pass _ _ | .look _ => false

end SurveyStep

namespace Survey

/-- What would come of an operation if it were carried out now. -/
def finding (operation : BankOperation) (survey : Survey) : Finding where
  granted := (survey.bank.apply operation survey.moment).granted
  events := (survey.bank.apply operation survey.moment).events
  shown := survey.bank.shown operation survey.moment
  phases := (survey.bank.apply operation survey.moment).bank.phases

/-- Take one step. -/
def next (survey : Survey) : SurveyStep → Survey
  | .pass duration wall =>
    { survey with moment := ⟨survey.moment.instant + duration, wall⟩ }
  | .perform operation =>
    { survey with
      bank := (survey.bank.apply operation survey.moment).bank
      findings := survey.findings ++ [survey.finding operation] }
  | .look provider =>
    { survey with bank := (survey.bank.apply (Bank.look provider) survey.moment).bank }

/-- The use of a bank without breakers through some steps. -/
def run (thresholds : Thresholds) (moment : Moment) (steps : List SurveyStep) : Survey :=
  steps.foldl next ⟨moment, .ofDefaults thresholds, []⟩

/-- Whenever the window of a breaker that was looked at is read for the first time since, it
reaches back no further than it did for the look. -/
def Unwidened (thresholds : Thresholds) (moment : Moment) (steps : List SurveyStep) : Prop :=
  ∀ before provider between operation after name,
    steps = before ++ .look provider :: (between ++ .perform operation :: after) →
    (Bank.look provider).reads name = true → operation.reads name = true →
    (∀ step ∈ between, step.reads name = false) →
    ((run thresholds moment (before ++ .look provider :: between)).bank.thresholdsFor
        name).horizon ≤
      ((run thresholds moment before).bank.thresholdsFor name).horizon

variable {thresholds : Thresholds} {moment : Moment} {steps : List SurveyStep}

theorem run_append (steps : List SurveyStep) (step : SurveyStep) :
    run thresholds moment (steps ++ [step]) = (run thresholds moment steps).next step := by
  rw [run, List.foldl_append]
  rfl

theorem Unwidened.of_append {step : SurveyStep}
    (unwidened : Unwidened thresholds moment (steps ++ [step])) :
    Unwidened thresholds moment steps := by
  intro before provider between operation after name split
  refine unwidened before provider between operation (after ++ [step]) name ?_
  rw [split]
  simp

/-- An outcome that a look has dropped from a window that was not read since. -/
def Dropped (thresholds : Thresholds) (moment : Moment) (steps : List SurveyStep) (name : String)
    (sample : Sample) : Prop :=
  ∃ before provider between, steps = before ++ .look provider :: between ∧
    (Bank.look provider).reads name = true ∧ (∀ step ∈ between, step.reads name = false) ∧
    ((run thresholds moment before).bank.thresholdsFor name).horizon <
      elapsedSince (run thresholds moment before).moment.instant sample.instant

theorem Dropped.append {name : String} {sample : Sample} {step : SurveyStep}
    (dropped : Dropped thresholds moment steps name sample) (unread : step.reads name = false) :
    Dropped thresholds moment (steps ++ [step]) name sample := by
  obtain ⟨before, provider, between, rfl, looked, none, old⟩ := dropped
  refine ⟨before, provider, between ++ [step], by simp, looked, ?_, old⟩
  intro other member
  rcases List.mem_append.mp member with among | last
  · exact none other among
  · obtain rfl := List.mem_singleton.mp last
    exact unread

theorem instant_le_next (survey : Survey) (step : SurveyStep) :
    survey.moment.instant ≤ (survey.next step).moment.instant := by
  cases step with
  | pass duration wall => exact Int.le_add_of_nonneg_right (Int.natCast_nonneg duration)
  | perform operation => exact Int.le_refl _
  | look provider => exact Int.le_refl _

theorem instant_le_foldl (survey : Survey) (more : List SurveyStep) :
    survey.moment.instant ≤ (more.foldl next survey).moment.instant := by
  induction more generalizing survey with
  | nil => exact Int.le_refl _
  | cons step more ih => exact Int.le_trans (instant_le_next survey step) (ih _)

/-- What the looks have dropped is too old for the next operation that reads the window. -/
theorem Dropped.isOld {operation : BankOperation} {name : String} {sample : Sample}
    (unwidened : Unwidened thresholds moment (steps ++ [.perform operation]))
    (reads : operation.reads name = true)
    (dropped : Dropped thresholds moment steps name sample) :
    ((run thresholds moment steps).bank.thresholdsFor name).horizon <
      elapsedSince (run thresholds moment steps).moment.instant sample.instant := by
  obtain ⟨before, provider, between, split, looked, none, old⟩ := dropped
  have narrow := unwidened before provider between operation [] name (by simp [split]) looked reads
    none
  have later : (run thresholds moment before).moment.instant ≤
      (run thresholds moment steps).moment.instant := by
    rw [split, run, run, List.foldl_append]
    exact instant_le_foldl _ _
  have older : elapsedSince (run thresholds moment before).moment.instant sample.instant ≤
      elapsedSince (run thresholds moment steps).moment.instant sample.instant :=
    Int.toNat_le_toNat (Int.sub_le_sub_right later _)
  rw [← split] at narrow
  exact Nat.lt_of_le_of_lt narrow (Nat.lt_of_lt_of_le old older)

/-- The run with looks goes like the one without them. -/
structure Follows (thresholds : Thresholds) (moment : Moment) (steps : List SurveyStep)
    (plain seen : Survey) : Prop where
  clock : seen.moment = plain.moment
  findings : seen.findings = plain.findings
  governed : plain.bank.Governed
  governed' : seen.bank.Governed
  veils : plain.bank.Veils (Dropped thresholds moment steps) seen.bank

theorem Follows.perform {plain seen : Survey} (follows : Follows thresholds moment steps plain seen)
    {operation : BankOperation}
    (old : plain.bank.Outdated (Dropped thresholds moment steps) operation plain.moment) :
    Follows thresholds moment (steps ++ [.perform operation]) (plain.next (.perform operation))
      (seen.next (.perform operation)) := by
  have veils := follows.veils.apply follows.governed follows.governed' old
  have same : seen.finding operation = plain.finding operation := by
    simp only [finding, follows.clock, follows.veils.granted_eq follows.governed old,
      follows.veils.events_eq follows.governed old, follows.veils.shown_eq follows.governed old,
      veils.phases_eq]
  constructor
  · exact follows.clock
  · simp only [next, follows.findings, same]
  · exact Bank.governed_apply follows.governed operation plain.moment
  · exact Bank.governed_apply follows.governed' operation seen.moment
  · simp only [next, follows.clock]
    exact veils.imp fun name sample dropped => dropped.1.append dropped.2

theorem Follows.look {plain seen : Survey} (follows : Follows thresholds moment steps plain seen)
    (now : seen = run thresholds moment steps) (provider : Option String) :
    Follows thresholds moment (steps ++ [.look provider]) plain (seen.next (.look provider)) := by
  refine ⟨follows.clock, follows.findings, follows.governed,
    Bank.governed_apply follows.governed' _ _, ?_⟩
  have kept : plain.bank.Veils (Dropped thresholds moment (steps ++ [.look provider])) seen.bank :=
    follows.veils.imp fun name sample dropped => dropped.append rfl
  refine kept.look follows.governed provider fun name reads sample old => ?_
  refine ⟨steps, provider, [], rfl, reads, by simp, ?_⟩
  rw [← now, follows.veils.thresholdsFor]
  exact old

theorem follows_run (unwidened : Unwidened thresholds moment steps) :
    Follows thresholds moment steps
      (run thresholds moment (steps.filter SurveyStep.isCounted))
      (run thresholds moment steps) := by
  induction steps using List.reverseRecOn with
  | nil =>
      exact ⟨rfl, rfl, Bank.governed_ofDefaults _, Bank.governed_ofDefaults _,
        Bank.veils_ofDefaults _⟩
  | append_singleton steps step ih =>
      have follows := ih unwidened.of_append
      rw [List.filter_append, run_append]
      cases step with
      | pass duration wall =>
          have counted : [SurveyStep.pass duration wall].filter SurveyStep.isCounted =
            [.pass duration wall] := rfl
          rw [counted, run_append]
          refine ⟨?_, follows.findings, follows.governed, follows.governed', ?_⟩
          · simp only [next, follows.clock]
          · exact follows.veils.imp fun name sample dropped => dropped.append rfl
      | perform operation =>
          have counted : [SurveyStep.perform operation].filter SurveyStep.isCounted =
            [.perform operation] := rfl
          rw [counted, run_append]
          refine follows.perform fun name reads sample dropped => ?_
          rw [← follows.veils.thresholdsFor, ← follows.clock]
          exact dropped.isOld unwidened reads
      | look provider =>
          have skipped : [SurveyStep.look provider].filter SurveyStep.isCounted = [] := rfl
          rw [skipped, List.append_nil]
          exact follows.look rfl provider

/-- Looking at breakers anywhere in a run changes nothing of what comes of the operations, as long
as no window is widened between a look and the next operation that reads it. -/
theorem looks_unseen (thresholds : Thresholds) (moment : Moment) (steps : List SurveyStep)
    (unwidened : Unwidened thresholds moment steps) :
    let plain := run thresholds moment (steps.filter SurveyStep.isCounted)
    let seen := run thresholds moment steps
    seen.findings = plain.findings ∧ seen.bank.phases = plain.bank.phases := by
  intro plain seen
  have follows : Follows thresholds moment steps plain seen := follows_run unwidened
  exact ⟨follows.findings, follows.veils.phases_eq⟩

theorem thresholdsFor_next {step : SurveyStep}
    (unset : ∀ operation, step = .perform operation → ¬operation.Sets) (survey : Survey)
    (name : String) :
    (survey.next step).bank.thresholdsFor name = survey.bank.thresholdsFor name := by
  cases step with
  | pass duration wall => rfl
  | perform operation => exact Bank.thresholdsFor_apply (unset operation rfl) _ _ _
  | look provider =>
      have looks : ¬(Bank.look provider).Sets := by cases provider <;> exact id
      exact Bank.thresholdsFor_apply looks _ _ _

theorem thresholdsFor_foldl {more : List SurveyStep}
    (unset : ∀ operation, SurveyStep.perform operation ∈ more → ¬operation.Sets) (survey : Survey)
    (name : String) :
    (more.foldl next survey).bank.thresholdsFor name = survey.bank.thresholdsFor name := by
  induction more generalizing survey with
  | nil => rfl
  | cons step more ih =>
      have head : (survey.next step).bank.thresholdsFor name = survey.bank.thresholdsFor name :=
        thresholdsFor_next (fun operation same => unset operation (by simp [same])) survey name
      exact (ih (fun operation member => unset operation (by simp [member])) _).trans head

/-- No window is widened where no thresholds are set. -/
theorem unwidened_of_unset
    (unset : ∀ operation, SurveyStep.perform operation ∈ steps → ¬operation.Sets) :
    Unwidened thresholds moment steps := by
  intro before provider between operation after name split _ _ _
  have same : (run thresholds moment (before ++ .look provider :: between)).bank.thresholdsFor
      name = (run thresholds moment before).bank.thresholdsFor name := by
    rw [run, run, List.foldl_append]
    refine thresholdsFor_foldl (fun operation member => unset operation ?_) _ name
    rw [split]
    simp only [List.mem_append, List.mem_cons] at member ⊢
    tauto
  rw [same]

theorem looks_unseen_while_unset :
    let steps : List SurveyStep := [.perform (.record "a" false),
      .pass (Duration.ofSeconds 70) default, .look (some "a"), .perform (.snapshot "a")]
    (∀ operation, SurveyStep.perform operation ∈ steps → ¬operation.Sets) ∧
      (run .standard Clock.start.moment steps).findings =
        (run .standard Clock.start.moment (steps.filter SurveyStep.isCounted)).findings := by
  intro steps
  have unset : ∀ operation, SurveyStep.perform operation ∈ steps → ¬operation.Sets := by
    simp [steps, BankOperation.Sets]
  exact ⟨unset, (looks_unseen .standard Clock.start.moment steps (unwidened_of_unset unset)).1⟩

/-- A look drops an outcome that a window widened afterwards would have held. -/
theorem look_shows_after_widening :
    let narrow := { Thresholds.standard with failures := 100, minimumSamples := 2 }
    let wide := { narrow with windowSeconds := 120 }
    let steps : List SurveyStep := [.perform (.record "p" false),
      .pass (Duration.ofSeconds 70) default, .look (some "p"),
      .perform (.setDefault wide), .perform (.snapshot "p")]
    let samples (steps : List SurveyStep) :=
      (run narrow Clock.start.moment steps).findings.map fun finding =>
        finding.shown.map (·.windowSamples)
    samples steps = [[], [], [0]] ∧
      samples (steps.filter SurveyStep.isCounted) = [[], [], [1]] := by
  decide

end Survey

end ProviderRouting
