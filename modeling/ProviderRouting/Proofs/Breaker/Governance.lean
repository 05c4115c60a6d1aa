import Mathlib.Data.List.Induction
import ProviderRouting.Proofs.Breaker.Isolation

/-!
# Thresholds in force

Thresholds stand in three places: a bank has default ones and those of single providers, and every
breaker has its own copy, made when it came into being and renewed when thresholds are set.  In
whatever order this happens, a breaker keeps to the thresholds that were last set for its provider,
and to the default ones that were last set if none ever were.
-/

namespace ProviderRouting

namespace BankStep

/-- The thresholds that a step sets for a provider by its name. -/
def own? (name : String) : BankStep → Option Thresholds
  | .perform (.setProvider provider thresholds) =>
    if provider = name then some thresholds else none
  | _ => none

/-- The thresholds that a step sets for all providers without their own. -/
def default? : BankStep → Option Thresholds
  | .perform (.setDefault thresholds) => some thresholds
  | _ => none

end BankStep

/-- The thresholds that some steps set last. -/
def lastSet (set? : BankStep → Option Thresholds) (steps : List BankStep) : Option Thresholds :=
  (steps.filterMap set?).getLast?

theorem lastSet_append (set? : BankStep → Option Thresholds) (steps : List BankStep)
    (step : BankStep) : lastSet set? (steps ++ [step]) = (set? step).or (lastSet set? steps) := by
  rw [lastSet, List.filterMap_append, List.getLast?_append, lastSet]
  cases found : set? step <;> simp [found]

theorem Bank.Governed.touch {bank : Bank} (governed : bank.Governed) (provider : String) :
    (bank.touch provider).Governed := by
  intro name breaker held
  rw [Bank.touch, Bank.get?_put] at held
  split at held
  · rename_i same
    obtain rfl := Option.some.inj held
    exact same ▸ governed.getOrFresh provider
  · exact governed name breaker held

namespace BankUse

variable {use : BankUse} {step : BankStep} {steps : List BankStep}

theorem defaults_next (step : BankStep) (use : BankUse) :
    (use.next step).bank.defaults = step.default?.getD use.bank.defaults := by
  cases step with
  | pass _ _ | touch _ => rfl
  | perform operation =>
      refine (Bank.policy_apply operation use.moment use.bank).1.trans ?_
      cases operation <;> rfl

theorem overrides_next (name : String) (step : BankStep) (use : BankUse) :
    (use.next step).bank.overrides.get? name =
      (step.own? name).or (use.bank.overrides.get? name) := by
  cases step with
  | pass _ _ | touch _ => rfl
  | perform operation =>
      have policy := (Bank.policy_apply operation use.moment use.bank).2
      rw [next, policy]
      cases operation with
      | setProvider provider thresholds =>
          simp only [Table.get?_insert, BankStep.own?]
          split <;> rfl
      | allow _ | record _ _ | bypass _ _ | reset _ | resetAll | adopt _ _ => rfl
      | setDefault _ | snapshot _ | snapshots => rfl

theorem governed_next (governed : use.bank.Governed) (step : BankStep) :
    (use.next step).bank.Governed := by
  cases step with
  | pass _ _ => exact governed
  | perform operation => exact Bank.governed_apply governed operation use.moment
  | touch provider => exact governed.touch provider

/-- The places where thresholds stand agree with what was set. -/
structure Abides (initial : Thresholds) (steps : List BankStep) (use : BankUse) : Prop where
  defaults : use.bank.defaults = (lastSet BankStep.default? steps).getD initial
  overrides : ∀ name, use.bank.overrides.get? name = lastSet (BankStep.own? name) steps
  governed : use.bank.Governed

theorem Abides.next {initial : Thresholds} (abides : use.Abides initial steps) (step : BankStep) :
    (use.next step).Abides initial (steps ++ [step]) where
  defaults := by
    rw [defaults_next, abides.defaults, lastSet_append]
    cases step.default? <;> rfl
  overrides name := by rw [overrides_next, abides.overrides, lastSet_append]
  governed := governed_next abides.governed step

theorem abides_run (initial : Thresholds) (moment : Moment) (steps : List BankStep) :
    (run ⟨moment, .ofDefaults initial⟩ steps).Abides initial steps := by
  induction steps using List.reverseRecOn with
  | nil => exact ⟨rfl, fun _ => rfl, Bank.governed_ofDefaults initial⟩
  | append_singleton steps step ih =>
      rw [run, List.foldl_append]
      exact ih.next step

/-- Whatever is done with a bank, and whether breakers come into being before thresholds are set or
after, the bank reports for every provider the thresholds that were last set for it, or the default
ones that were last set if none were set for it; and every breaker there is has those. -/
theorem governance_law (initial : Thresholds) (moment : Moment) (steps : List BankStep)
    (name : String) :
    let bank := (run ⟨moment, .ofDefaults initial⟩ steps).bank
    let defaults := (lastSet BankStep.default? steps).getD initial
    bank.thresholdsFor name = (lastSet (BankStep.own? name) steps).getD defaults ∧
      ∀ breaker, bank.get? name = some breaker →
        breaker.thresholds = bank.thresholdsFor name := by
  intro bank defaults
  have abides : Abides initial steps _ := abides_run initial moment steps
  refine ⟨?_, abides.governed name⟩
  rw [Bank.thresholdsFor, abides.overrides, abides.defaults]

end BankUse

end ProviderRouting
