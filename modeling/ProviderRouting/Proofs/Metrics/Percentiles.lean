import Mathlib.Algebra.Ring.Nat
import Mathlib.Data.List.Induction
import Mathlib.Order.Bounds.Basic
import ProviderRouting.Metrics.Histogram
import ProviderRouting.Proofs.Number.Comparison

/-!
# Counts and percentiles of histograms

A histogram with ascending bounds keeps, for each bucket, the number of values whose bucket it is.
Summed up to a bound, these are the values that do not exceed the bound; only up to the last bound
they are all values, whether or not they exceed it or are numbers.  So the bound at which the sums
reach a target tells between which bounds the value of that rank lies.
-/

namespace ProviderRouting

open Binary64

namespace Histogram

/-- Bounds that a histogram can go by: there are some, they are numbers, and they grow. -/
structure Ascending (bounds : List Float) : Prop where
  /-- There is a bucket. -/
  nonempty : bounds ≠ []
  /-- Every bound is a number. -/
  numbers : ∀ bound ∈ bounds, bound.isNaN = false
  /-- Every bound is below all later ones. -/
  growing : bounds.Pairwise (· < ·)

/-- Record values one after the other. -/
def recordAll (values : List Float) (histogram : Histogram) : Histogram :=
  values.foldl (fun histogram value => histogram.record value) histogram

theorem recordAll_concat (values : List Float) (value : Float) (histogram : Histogram) :
    histogram.recordAll (values ++ [value]) = (histogram.recordAll values).record value := by
  rw [recordAll, List.foldl_append]
  rfl

variable {bounds : List Float}

/-! ## Buckets -/

theorem Ascending.le_of_le (ascending : Ascending bounds) {first second : Nat}
    (inside : second < bounds.length) (ordered : first ≤ second) :
    bounds[first] ≤ bounds[second] := by
  rcases Nat.eq_or_lt_of_le ordered with rfl | before
  · exact le_refl_of_number (ascending.numbers _ (List.getElem_mem inside))
  · exact le_of_lt (List.pairwise_iff_getElem.mp ascending.growing _ _ _ inside before)

theorem bucket_lt (nonempty : bounds ≠ []) (value : Float) :
    bucket bounds value < bounds.length := by
  have positive := List.length_pos_iff.mpr nonempty
  rw [bucket]
  cases found : bounds.findIdx? fun bound => value ≤ bound with
  | none => exact Nat.sub_lt positive Nat.one_pos
  | some index => exact (List.findIdx?_eq_some_iff_getElem.mp found).1

/-- A value goes no farther than to a bound if it does not exceed that bound.  The last bucket takes
all others. -/
theorem bucket_le_iff (ascending : Ascending bounds) (value : Float) {index : Nat}
    (inner : index + 1 < bounds.length) :
    bucket bounds value ≤ index ↔ value ≤ bounds[index] := by
  rw [bucket]
  cases found : bounds.findIdx? fun bound => value ≤ bound with
  | none =>
      have inside := List.getElem_mem (Nat.lt_of_succ_lt inner)
      have exceeds := List.findIdx?_eq_none_iff.mp found _ inside
      refine iff_of_false ?_ (of_decide_eq_false exceeds)
      rw [Option.getD_none]
      omega
  | some first =>
      obtain ⟨inside, fits, earlier⟩ := List.findIdx?_eq_some_iff_getElem.mp found
      rw [Option.getD_some]
      constructor
      · intro ordered
        exact le_trans (of_decide_eq_true fits) (ascending.le_of_le _ ordered)
      · intro reached
        by_contra farther
        exact earlier index (Nat.lt_of_not_le farther) (decide_eq_true reached)

/-- The last bucket takes what exceeds all earlier bounds and what is not a number. -/
theorem bucket_eq_last_iff (ascending : Ascending bounds) (value : Float) :
    bucket bounds value = bounds.length - 1 ↔ ∀ bound ∈ bounds.dropLast, ¬value ≤ bound := by
  have inside := bucket_lt ascending.nonempty value
  constructor
  · intro last bound member reached
    obtain ⟨index, short, rfl⟩ := List.getElem_of_mem member
    rw [List.length_dropLast] at short
    rw [List.getElem_dropLast] at reached
    have inner : index + 1 < bounds.length := by omega
    have ordered := (bucket_le_iff ascending value inner).mpr reached
    omega
  · intro exceeds
    by_contra other
    have inner : bucket bounds value + 1 < bounds.length := by omega
    have reached := (bucket_le_iff ascending value inner).mp le_rfl
    have short : bucket bounds value < bounds.dropLast.length := by
      rw [List.length_dropLast]
      omega
    refine exceeds _ (List.getElem_mem short) ?_
    rwa [List.getElem_dropLast]

/-! ## Counts -/

/-- The histogram of some values. -/
def ofValues (bounds values : List Float) : Histogram := (ofBounds bounds).recordAll values

/-- What a histogram holds of values: its own bounds, their number, and for each bucket the number
of values that go there. -/
structure Holds (bounds values : List Float) (histogram : Histogram) : Prop where
  bounds_eq : histogram.bounds = bounds
  total_eq : histogram.total = values.length
  counts_eq : histogram.counts =
    (List.range bounds.length).map fun index => values.countP (bucket bounds · = index)

theorem holds_ofBounds (bounds : List Float) : (ofBounds bounds).Holds bounds [] where
  bounds_eq := rfl
  total_eq := rfl
  counts_eq := by
    refine List.ext_getElem (by simp [ofBounds]) fun index _ _ => ?_
    simp [ofBounds]

theorem Holds.record {values : List Float} {histogram : Histogram}
    (holds : histogram.Holds bounds values) (nonempty : bounds ≠ []) (value : Float) :
    (histogram.record value).Holds bounds (values ++ [value]) := by
  obtain ⟨rfl, total, counts⟩ := holds
  have kept : histogram.bounds.isEmpty = false := List.isEmpty_eq_false_iff.mpr nonempty
  refine ⟨bounds_record value histogram, ?_, ?_⟩
  · simp [Histogram.record, kept, total]
  · simp only [Histogram.record, kept, Bool.false_eq_true, if_false, counts]
    refine List.ext_getElem (by simp) fun index _ _ => ?_
    rw [List.getElem_modify, List.getElem_map, List.getElem_map, List.getElem_range,
      List.countP_append, List.countP_singleton]
    simp only [decide_eq_true_eq]
    split <;> rfl

theorem holds_ofValues (nonempty : bounds ≠ []) (values : List Float) :
    (ofValues bounds values).Holds bounds values := by
  rw [ofValues]
  induction values using List.reverseRecOn with
  | nil => exact holds_ofBounds bounds
  | append_singleton values value ih =>
      rw [recordAll_concat]
      exact ih.record nonempty value

theorem countP_lt_succ (values : List Float) (place : Float → Nat) (count : Nat) :
    values.countP (place · < count + 1) =
      values.countP (place · < count) + values.countP (place · = count) := by
  induction values with
  | nil => rfl
  | cons value values ih =>
      simp only [List.countP_cons, ih, decide_eq_true_eq]
      split <;> split <;> split <;> omega

/-- Counted one place after the other, the values up to a place are counted. -/
theorem sum_countP_range (values : List Float) (place : Float → Nat) (count : Nat) :
    ((List.range count).map fun index => values.countP (place · = index)).sum =
      values.countP (place · < count) := by
  induction count with
  | zero => simp
  | succ count ih =>
      rw [List.range_succ, List.map_append, List.sum_append, ih, countP_lt_succ]
      simp

namespace Holds

variable {values : List Float} {histogram : Histogram}

theorem length_counts (holds : histogram.Holds bounds values) :
    histogram.counts.length = bounds.length := by
  rw [holds.counts_eq, List.length_map, List.length_range]

/-- The counts up to a bucket sum up to the values that go no farther. -/
theorem sum_take (holds : histogram.Holds bounds values) {count : Nat}
    (inside : count ≤ bounds.length) :
    (histogram.counts.take count).sum = values.countP (bucket bounds · < count) := by
  rw [holds.counts_eq, ← List.map_take, List.take_range, Nat.min_eq_left inside, sum_countP_range]

theorem sum_counts (holds : histogram.Holds bounds values) (nonempty : bounds ≠ []) :
    histogram.counts.sum = values.length := by
  rw [holds.counts_eq, sum_countP_range, List.countP_eq_length]
  exact fun value _ => decide_eq_true (bucket_lt nonempty value)

/-- Up to a bound that is not the last one, the counts sum up to the values that do not exceed
it. -/
theorem sum_take_inner (holds : histogram.Holds bounds values) (ascending : Ascending bounds)
    {index : Nat} (inner : index + 1 < bounds.length) :
    (histogram.counts.take (index + 1)).sum = values.countP (· ≤ bounds[index]) := by
  rw [holds.sum_take inner.le]
  refine List.countP_congr fun value _ => ?_
  rw [decide_eq_true_iff, decide_eq_true_iff, Nat.lt_succ_iff, bucket_le_iff ascending value inner]

theorem getLast?_counts (holds : histogram.Holds bounds values) (ascending : Ascending bounds) :
    histogram.counts.getLast? =
      some (values.countP fun value => ∀ bound ∈ bounds.dropLast, ¬value ≤ bound) := by
  have positive := List.length_pos_iff.mpr ascending.nonempty
  rw [List.getLast?_eq_getElem?, holds.length_counts, holds.counts_eq, List.getElem?_map,
    List.getElem?_range (by omega), Option.map_some]
  refine congrArg some (List.countP_congr fun value _ => ?_)
  rw [decide_eq_true_iff, decide_eq_true_iff, bucket_eq_last_iff ascending]

end Holds

end Histogram

/-! ## Percentiles -/

namespace HistogramSnapshot

/-- The bound found is that of the first bucket at which the counts sum up to the target. -/
theorem scan_eq_getElem {target : Nat} (fallback : Float) {bounds : List Float}
    {counts : List Nat} (paired : counts.length = bounds.length) {below : Nat}
    (short : below < target) (reached : target ≤ below + counts.sum) :
    ∃ (index : Nat) (_ : index < bounds.length),
      scan target fallback bounds counts below = bounds[index] ∧
      target ≤ below + (counts.take (index + 1)).sum ∧
      below + (counts.take index).sum < target := by
  induction bounds generalizing counts below with
  | nil =>
      obtain rfl := List.eq_nil_of_length_eq_zero paired
      simp at reached
      omega
  | cons bound bounds ih =>
      cases counts with
      | nil => simp at paired
      | cons count counts =>
          rw [scan]
          by_cases here : target ≤ below + count
          · exact ⟨0, Nat.zero_lt_succ _, by simp [here], by simpa using here, by simpa using short⟩
          · rw [List.sum_cons] at reached
            obtain ⟨index, inside, found, upTo, before⟩ := ih (Nat.succ.inj paired)
              (Nat.lt_of_not_le here) (by omega)
            refine ⟨index + 1, Nat.succ_lt_succ inside, by simp [here, found], ?_, ?_⟩
            · rw [List.take_succ_cons, List.sum_cons]
              omega
            · rw [List.take_succ_cons, List.sum_cons]
              omega

theorem target_pos (total : Nat) (quantile : Float) : 0 < target total quantile :=
  Nat.lt_of_lt_of_le Nat.one_pos (Nat.le_max_right _ _)

end HistogramSnapshot

namespace Histogram

open HistogramSnapshot (target)

variable {bounds values : List Float} {histogram : Histogram}

/-- A percentile is the bound of the bucket at which the target falls. -/
theorem Holds.percentile_eq (holds : histogram.Holds bounds values) (nonempty : bounds ≠ [])
    {quantile : Float} (reached : target histogram.total quantile ≤ histogram.total) :
    ∃ (index : Nat) (_ : index < bounds.length),
      histogram.snapshot.percentile quantile = bounds[index] ∧
      target histogram.total quantile ≤ values.countP (bucket bounds · < index + 1) ∧
      values.countP (bucket bounds · < index) < target histogram.total quantile := by
  have positive := HistogramSnapshot.target_pos histogram.total quantile
  have summed : target histogram.total quantile ≤ 0 + histogram.counts.sum := by
    rw [Nat.zero_add, holds.sum_counts nonempty, ← holds.total_eq]
    exact reached
  obtain ⟨index, inside, found, upTo, before⟩ := HistogramSnapshot.scan_eq_getElem
    (histogram.bounds.getLast?.getD 0.0) holds.length_counts positive summed
  rw [Nat.zero_add, holds.sum_take (Nat.add_one_le_of_lt inside)] at upTo
  rw [Nat.zero_add, holds.sum_take inside.le] at before
  have recorded : histogram.total ≠ 0 := by omega
  rw [holds.bounds_eq] at found
  refine ⟨index, inside, ?_, upTo, before⟩
  rw [← found]
  simp only [HistogramSnapshot.percentile, snapshot, if_neg recorded, holds.bounds_eq]

/-- A percentile is the least bound up to which the counts sum up to the target. -/
theorem Holds.isLeast_percentile (holds : histogram.Holds bounds values)
    (ascending : Ascending bounds) {quantile : Float}
    (reached : target histogram.total quantile ≤ histogram.total) :
    IsLeast {bound | ∃ index, bounds[index]? = some bound ∧
        target histogram.total quantile ≤ (histogram.counts.take (index + 1)).sum}
      (histogram.snapshot.percentile quantile) := by
  obtain ⟨index, inside, found, upTo, before⟩ := holds.percentile_eq ascending.nonempty reached
  constructor
  · refine ⟨index, ?_, ?_⟩
    · rw [found, List.getElem?_eq_getElem inside]
    · rwa [holds.sum_take (Nat.add_one_le_of_lt inside)]
  · rintro bound ⟨other, there, sums⟩
    obtain ⟨otherInside, rfl⟩ := List.getElem?_eq_some_iff.mp there
    rw [found]
    refine ascending.le_of_le otherInside (Nat.le_of_not_lt fun earlier => ?_)
    rw [holds.sum_take (Nat.add_one_le_of_lt otherInside)] at sums
    have fewer : values.countP (bucket bounds · < other + 1) ≤
        values.countP (bucket bounds · < index) := by
      refine List.countP_mono_left fun value _ below => ?_
      rw [decide_eq_true_iff] at below ⊢
      omega
    omega

/-- Whatever values are recorded on ascending bounds, the counts add up to their number.  Up to a
bound that is not the last one they add up to the values that do not exceed it, and the last bucket
counts the values that do not keep to any earlier bound.  A percentile whose target is not beyond
the number of values is the least bound at which the counts add up to the target: that many values
do not exceed it, unless it is the last bound, and fewer do not exceed the bound before it.  It does
not get smaller as the target grows. -/
theorem percentile_law (ascending : Ascending bounds) (values : List Float) :
    let shown := (ofValues bounds values).snapshot
    let upTo (index : Nat) : Nat := (shown.counts.take (index + 1)).sum
    let keepTo (bound : Float) : Nat := values.countP (· ≤ bound)
    shown.total = values.length ∧ shown.counts.sum = shown.total ∧
    (∀ index bound, index + 1 < bounds.length → bounds[index]? = some bound →
      upTo index = keepTo bound) ∧
    shown.counts.getLast? =
      some (values.countP fun value => ∀ bound ∈ bounds.dropLast, ¬value ≤ bound) ∧
    (∀ quantile, target shown.total quantile ≤ shown.total →
      IsLeast {bound | ∃ index, bounds[index]? = some bound ∧
        target shown.total quantile ≤ upTo index} (shown.percentile quantile) ∧
      (bounds.getLast? ≠ some (shown.percentile quantile) →
        target shown.total quantile ≤ keepTo (shown.percentile quantile)) ∧
      ∀ index before, bounds[index]? = some before →
        bounds[index + 1]? = some (shown.percentile quantile) →
        keepTo before < target shown.total quantile) ∧
    ∀ lower higher, target shown.total lower ≤ target shown.total higher →
      target shown.total higher ≤ shown.total →
      shown.percentile lower ≤ shown.percentile higher := by
  intro shown upTo keepTo
  have holds := holds_ofValues ascending.nonempty values
  have inner (index : Nat) (bound : Float) (inside : index + 1 < bounds.length)
      (there : bounds[index]? = some bound) : upTo index = keepTo bound := by
    obtain ⟨_, rfl⟩ := List.getElem?_eq_some_iff.mp there
    exact holds.sum_take_inner ascending inside
  refine ⟨holds.total_eq, (holds.sum_counts ascending.nonempty).trans holds.total_eq.symm, inner,
    holds.getLast?_counts ascending, fun quantile reached => ?_, fun lower higher grows reached => ?_⟩
  · have least := holds.isLeast_percentile ascending reached
    refine ⟨least, fun notLast => ?_, fun index before there next => ?_⟩
    · obtain ⟨index, there, sums⟩ := least.1
      have inside := (List.getElem?_eq_some_iff.mp there).1
      rw [← inner index _ (Nat.lt_of_le_of_ne inside fun last => notLast ?_) there]
      · exact sums
      · rw [List.getLast?_eq_getElem?, ← last]
        exact there
    · obtain ⟨inside, next⟩ := List.getElem?_eq_some_iff.mp next
      rw [← inner index before inside there]
      refine Nat.lt_of_not_le fun sums => ?_
      -- otherwise the bound before would be one up to which the counts suffice
      refine not_lt_of_le (least.2 ⟨index, there, sums⟩) ?_
      obtain ⟨_, rfl⟩ := List.getElem?_eq_some_iff.mp there
      rw [← next]
      exact List.pairwise_iff_getElem.mp ascending.growing _ _ _ inside (Nat.lt_succ_self index)
  · have least := holds.isLeast_percentile ascending (grows.trans reached)
    obtain ⟨index, there, sums⟩ := (holds.isLeast_percentile ascending reached).1
    exact least.2 ⟨index, there, grows.trans sums⟩

theorem ascending_latencyBounds : Ascending latencyBounds :=
  ⟨List.cons_ne_nil _ _, by decide +kernel, by decide +kernel⟩

/-- Of four latencies, one on a bound, one beyond all bounds and one that is no number, two keep to
the first bound, which is the median. -/
theorem percentile_law_median :
    let shown := (ofValues latencyBounds [50.0, 0.0 / 0.0, 200000.0, 30.0]).snapshot
    Ascending latencyBounds ∧ target shown.total 0.5 ≤ shown.total ∧ shown.total = 4 ∧
      target shown.total 0.5 = 2 ∧ shown.percentile 0.5 = 50.0 ∧
      IsLeast {bound | ∃ index, latencyBounds[index]? = some bound ∧
        target shown.total 0.5 ≤ (shown.counts.take (index + 1)).sum} (shown.percentile 0.5) := by
  intro shown
  have half : target shown.total 0.5 = 2 := by decide +kernel
  have median : shown.percentile 0.5 = 50.0 := by decide +kernel
  obtain ⟨total, -, -, -, percentiles, -⟩ := percentile_law ascending_latencyBounds
    [50.0, 0.0 / 0.0, 200000.0, 30.0]
  have reached : target shown.total 0.5 ≤ shown.total := by
    rw [half, total]
    decide
  exact ⟨ascending_latencyBounds, reached, total, half, median, (percentiles 0.5 reached).1⟩

end Histogram

end ProviderRouting
