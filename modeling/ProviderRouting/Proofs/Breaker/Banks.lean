import ProviderRouting.Breaker.Bank

/-!
# Breakers in their banks

An operation on a bank is carried out on the breaker of a provider, a fresh one if there is none,
and leaves the breakers of other providers alone.  Looking at breakers and setting thresholds
adjusts many breakers at once, but in nothing that is recorded about calls or phases.
-/

namespace ProviderRouting

/-- A breaker is as it was before but for its thresholds and its window. -/
def Breaker.Adjusted (before after : Breaker) : Prop :=
  ∃ thresholds window, after = { before with thresholds := thresholds, window := window }

theorem Breaker.Adjusted.refl (breaker : Breaker) : breaker.Adjusted breaker :=
  ⟨breaker.thresholds, breaker.window, rfl⟩

/-- An operation that looks at breakers or sets thresholds. -/
def BankOperation.IsQuiet : BankOperation → Prop
  | .setDefault _ | .setProvider _ _ | .snapshot _ | .snapshots => True
  | .allow _ | .record _ _ | .bypass _ _ | .reset _ | .resetAll | .adopt _ _ => False

namespace Bank

theorem getOrFresh_of_some {bank : Bank} {provider : String} {breaker : Breaker}
    (held : bank.get? provider = some breaker) : bank.getOrFresh provider = breaker := by
  rw [getOrFresh, held, Option.getD_some]

theorem phase_getOrFresh (bank : Bank) (name : String) :
    (bank.getOrFresh name).phase = bank.phase name := by
  rw [getOrFresh, phase]
  cases bank.get? name <;> rfl

theorem getOrFresh_put (bank : Bank) (name provider : String) (breaker : Breaker) :
    (bank.put name breaker).getOrFresh provider =
      if name = provider then breaker else bank.getOrFresh provider := by
  unfold getOrFresh get? put
  rw [Table.get?_insert]
  split <;> rfl

theorem get?_map {bank after : Bank} {change : String → Breaker → Breaker}
    (breakers : after.breakers = bank.breakers.map change) (name : String) :
    after.get? name = (bank.get? name).map (change name) := by
  rw [get?, breakers, Table.get?_map]
  rfl

/-! Four operations change all breakers alike. -/

theorem breakers_resetAll (moment : Moment) (bank : Bank) :
    (bank.resetAll moment).bank.breakers =
      bank.breakers.map fun _ breaker => (breaker.reset moment).breaker := rfl

theorem breakers_setDefault (thresholds : Thresholds) (bank : Bank) :
    (bank.setDefault thresholds).breakers = bank.breakers.map fun name breaker =>
      if bank.overrides.contains name then breaker else breaker.setThresholds thresholds := rfl

theorem breakers_setProvider (provider : String) (thresholds : Thresholds) (bank : Bank) :
    (bank.setProvider provider thresholds).breakers = bank.breakers.map fun name breaker =>
      if name = provider then breaker.setThresholds thresholds else breaker := rfl

theorem breakers_snapshots (moment : Moment) (bank : Bank) :
    (bank.snapshots moment).1.breakers =
      bank.breakers.map fun _ breaker => breaker.prune moment := rfl

theorem adjusted_of_map {bank after : Bank} {change : String → Breaker → Breaker}
    (breakers : after.breakers = bank.breakers.map change)
    (adjusted : ∀ name breaker, Breaker.Adjusted breaker (change name breaker)) (name : String) :
    (bank.getOrFresh name).Adjusted (after.getOrFresh name) := by
  have found := get?_map breakers name
  cases held : bank.get? name with
  | none =>
      rw [held, Option.map_none] at found
      rw [getOrFresh, getOrFresh, held, found]
      exact ⟨after.thresholdsFor name, .empty, rfl⟩
  | some breaker =>
      rw [held, Option.map_some] at found
      rw [getOrFresh_of_some held, getOrFresh_of_some found]
      exact adjusted name breaker

theorem adjusted_setThresholds (breaker : Breaker) (thresholds : Thresholds) :
    breaker.Adjusted (breaker.setThresholds thresholds) :=
  ⟨thresholds, breaker.window, rfl⟩

theorem adjusted_prune (breaker : Breaker) (moment : Moment) :
    breaker.Adjusted (breaker.prune moment) :=
  ⟨breaker.thresholds, breaker.window.prune breaker.thresholds.horizon moment.instant, rfl⟩

/-- A quiet operation reports nothing and only adjusts breakers. -/
theorem adjusted_of_isQuiet {operation : BankOperation} (quiet : operation.IsQuiet) (bank : Bank)
    (moment : Moment) :
    (bank.apply operation moment).events = [] ∧ ∀ name,
      (bank.getOrFresh name).Adjusted ((bank.apply operation moment).bank.getOrFresh name) := by
  cases operation with
  | setDefault thresholds =>
      refine ⟨rfl, adjusted_of_map (breakers_setDefault thresholds bank) fun name breaker => ?_⟩
      split
      · exact .refl breaker
      · exact adjusted_setThresholds breaker thresholds
  | setProvider owner thresholds =>
      refine ⟨rfl, adjusted_of_map (breakers_setProvider owner thresholds bank)
        fun name breaker => ?_⟩
      split
      · exact adjusted_setThresholds breaker thresholds
      · exact .refl breaker
  | snapshot provider =>
      refine ⟨rfl, fun name => ?_⟩
      change (bank.getOrFresh name).Adjusted ((bank.snapshot provider moment).1.getOrFresh name)
      unfold snapshot
      split
      · rename_i breaker held
        change (bank.getOrFresh name).Adjusted
          ((bank.put provider (breaker.prune moment)).getOrFresh name)
        rw [getOrFresh_put]
        split
        · rename_i here
          subst here
          rw [getOrFresh_of_some held]
          exact adjusted_prune breaker moment
        · exact .refl _
      · exact .refl _
  | snapshots =>
      exact ⟨rfl, adjusted_of_map (breakers_snapshots moment bank)
        fun _ breaker => adjusted_prune breaker moment⟩
  | allow _ | record _ _ | bypass _ _ | reset _ | resetAll | adopt _ _ => exact absurd quiet id

end Bank

end ProviderRouting
