import Mathlib.Data.List.Nodup
import Mathlib.Data.Prod.Lex
import Mathlib.Data.String.Basic
import Mathlib.Order.Lattice
import ProviderRouting.Health.Tracker
import ProviderRouting.Plan.Candidate
import ProviderRouting.Proofs.Number.TotalOrder
import ProviderRouting.Proofs.Number.Unsigned

/-!
# The order of candidates

What a candidate is ranked by is a value of a lexicographic product of linear orders, and a
candidate may stand before another exactly when its value is not the greater one.  Ranking is
therefore sorting by that value, and pinning moves one candidate over those before it.

The doubles among what candidates are ranked by are health statistics and costs.  Statistics are
always numbers, and costs that are none keep their sign.
-/

namespace ProviderRouting

/-- What candidates are ranked by, most important first: open or not, priority, phase, degraded
health, success rate (the higher the better), latency, combined cost, and the name of the
provider.  The doubles stand for themselves by their places in the total order. -/
abbrev RankKey := Bool ×ₗ ℕ ×ₗ ℕ ×ₗ Bool ×ₗ ℤᵒᵈ ×ₗ ℤ ×ₗ ℤ ×ₗ String

/-! ## Doubles -/

/-- What the statistics of a provider show are numbers. -/
structure HealthSnapshot.IsNumeric (snapshot : HealthSnapshot) : Prop where
  /-- The success rate. -/
  rate : snapshot.successRate.isNaN = false
  /-- The latency. -/
  latency : snapshot.latencyMilliseconds.isNaN = false

theorem Duration.unsigned_toMilliseconds (duration : Duration) :
    Binary64.Unsigned duration.toMilliseconds := by
  have seconds : Binary64.Unsigned duration.toSeconds :=
    (Binary64.unsigned_toFloat _).add ((Binary64.unsigned_toFloat _).div ⟨_, _, _, rfl⟩)
  exact seconds.mul ⟨_, _, _, rfl⟩

theorem HealthStats.isNumeric_snapshot (stats : HealthStats) (provider : String) :
    (stats.snapshot provider).IsNumeric where
  rate := ((Binary64.unsigned_toFloat _).div ⟨_, _, _, rfl⟩).isNaN
  latency := (Duration.unsigned_toMilliseconds _).isNaN

/-- Whatever was recorded, what a provider shows are numbers. -/
theorem HealthTracker.isNumeric_snapshot (tracker : HealthTracker) (provider : String) :
    (tracker.snapshot provider).IsNumeric := by
  unfold snapshot
  split
  · exact HealthStats.isNumeric_snapshot _ provider
  · have one : (1.0 : Float).isNaN = false := by decide +kernel
    have zero : (0.0 : Float).isNaN = false := by decide +kernel
    exact ⟨one, zero⟩

/-- A cost that is not a number stands beyond all amounts that are, on the side of its sign. -/
theorem Cost.orderKey_undefined {value : Float} (number : Binary64.read value ≠ .nan) :
    (undefined true).orderKey < (amount value).orderKey ∧
      (amount value).orderKey < (undefined false).orderKey := by
  have undefined : Binary64.read (0.0 / 0.0) = .nan := by decide +kernel
  have positive : Binary64.negative (0.0 / 0.0) = false := by decide +kernel
  have less := Binary64.magnitude_lt_of_nan number undefined
  simp only [orderKey, Binary64.orderKey_eq, positive]
  cases Binary64.negative value <;> simp <;> omega

namespace Candidate

open OrderDual (toDual)

/-- What a candidate is ranked by. -/
def key (candidate : Candidate) : RankKey :=
  toLex (candidate.isOpen,
    toLex (candidate.offering.priority.toNat,
      toLex (candidate.phaseRank,
        toLex (candidate.degraded,
          toLex (toDual (Binary64.orderKey candidate.health.successRate),
            toLex (Binary64.orderKey candidate.health.latencyMilliseconds,
              toLex (candidate.offering.combinedCost.orderKey,
                candidate.offering.provider)))))))

/-! ## Comparison -/

section Comparison

theorem then_ne_gt_iff (left right : Int) (rest : Ordering) :
    ((Ord.compare left right).then rest != .gt) = true ↔
      left < right ∨ left = right ∧ (rest != .gt) = true := by
  rcases Int.lt_trichotomy left right with below | rfl | above
  · rw [Int.compare_eq_lt.mpr below]
    simp [below]
  · simp
  · rw [Int.compare_eq_gt.mpr above]
    have not_below : ¬left < right := Int.lt_asymm above
    have apart : left ≠ right := Int.ne_of_gt above
    simp [not_below, apart]

theorem name_ne_gt_iff (left right : String) :
    (Ord.compare left right != .gt) = true ↔ left ≤ right := by
  rw [bne_iff_ne]
  exact compare_le_iff_le

theorem toNat_lt_iff (left right : Bool) : left.toNat < right.toNat ↔ left < right := by
  cases left <;> cases right <;> decide

theorem toNat_eq_iff (left right : Bool) : left.toNat = right.toNat ↔ left = right := by
  cases left <;> cases right <;> decide

end Comparison

/-- A candidate may stand before another exactly when its key is not the greater one. -/
theorem precedes_iff (left right : Candidate) :
    left.precedes right = true ↔ left.key ≤ right.key := by
  simp only [precedes, compare, rankKey, compareKeys, Ordering.then_assoc, Ordering.eq_then,
    then_ne_gt_iff, name_ne_gt_iff, Int.ofNat_lt, Int.ofNat_inj, toNat_lt_iff, toNat_eq_iff,
    Int.neg_lt_neg_iff, Int.neg_inj, key, Prod.Lex.toLex_le_toLex, OrderDual.toDual_lt_toDual,
    OrderDual.toDual_inj]

theorem precedes_trans (first second third : Candidate) (left : first.precedes second = true)
    (right : second.precedes third = true) : first.precedes third = true := by
  rw [precedes_iff] at left right ⊢
  exact left.trans right

theorem precedes_total (left right : Candidate) :
    (left.precedes right || right.precedes left) = true := by
  rw [Bool.or_eq_true, precedes_iff, precedes_iff]
  exact le_total left.key right.key

theorem isOpen_of_key_le {left right : Candidate} (below : left.key ≤ right.key)
    (opened : left.isOpen = true) : right.isOpen = true := by
  rw [key, key, Prod.Lex.toLex_le_toLex] at below
  rcases below with less | ⟨same, -⟩
  · exact Bool.eq_true_of_true_le (opened ▸ less.le)
  · exact same.symm.trans opened

theorem provider_eq_of_key_eq {left right : Candidate} (same : left.key = right.key) :
    left.offering.provider = right.offering.provider := by
  simp only [key, toLex_inj, Prod.mk.injEq] at same
  exact same.2.2.2.2.2.2.2

/-- Ranking sorts by the keys. -/
theorem rank_pairwise (candidates : List Candidate) :
    (rank candidates).Pairwise fun left right => left.key ≤ right.key := by
  have sorted := List.pairwise_mergeSort precedes_trans precedes_total candidates
  exact sorted.imp fun before => (precedes_iff _ _).1 before

/-- Candidates of distinct providers stand in the order of their keys in one way only. -/
theorem eq_of_ordered {first second : List Candidate}
    (distinct : (second.map (·.offering.provider)).Nodup) (reordered : first.Perm second)
    (firstOrdered : first.Pairwise fun left right => left.key ≤ right.key)
    (secondOrdered : second.Pairwise fun left right => left.key ≤ right.key) :
    first = second := by
  refine reordered.eq_of_pairwise ?_ firstOrdered secondOrdered
  intro left right leftMember rightMember below above
  exact List.inj_on_of_nodup_map distinct (reordered.subset leftMember) rightMember
    (provider_eq_of_key_eq (le_antisymm below above))

/-! ## Pinning -/

/-- The first candidate that passes the test moves over those before it. -/
theorem pin_append {test : Candidate → Bool} {before after : List Candidate} {chosen : Candidate}
    (failing : ∀ candidate ∈ before, ¬test candidate = true) (passing : test chosen = true) :
    pin test (before ++ chosen :: after) = chosen :: (before ++ after) := by
  have found : (before ++ chosen :: after).find? test = some chosen :=
    List.find?_eq_some_iff_append.2 ⟨passing, before, after, rfl, by simpa using failing⟩
  have erased : (before ++ chosen :: after).eraseP test = before ++ after := by
    rw [List.eraseP_append_right _ failing, List.eraseP_cons_of_pos passing]
  rw [pin, found, erased]

theorem pin_of_none {test : Candidate → Bool} {candidates : List Candidate}
    (failing : ∀ candidate ∈ candidates, ¬test candidate = true) :
    pin test candidates = candidates := by
  rw [pin, List.find?_eq_none.2 failing]

end Candidate

end ProviderRouting
