import Mathlib.Data.List.DropRight
import ProviderRouting.Breaker.Window

/-!
# What a window holds

A window is pruned and capped as outcomes come in.  It nevertheless holds, once it is pruned at an
instant, the latest of all outcomes that are young enough at that instant, up to its capacity.
-/

namespace ProviderRouting

/-- Whether an outcome is young enough at an instant. -/
def Sample.isRecent (horizon : Duration) (now : Int) (sample : Sample) : Bool :=
  now - sample.instant ≤ horizon

namespace Window

/-! ## Lists on which a test is passed from some element on -/

section Upward

variable {α : Type} {test : α → Bool} {list : List α}

theorem dropWhile_not_eq_filter
    (upward : list.Pairwise fun left right => test left → test right) :
    list.dropWhile (fun element => !test element) = list.filter test := by
  induction list with
  | nil => rfl
  | cons head rest ih =>
      obtain ⟨above, tail⟩ := List.pairwise_cons.mp upward
      by_cases passes : test head
      · have all : ∀ element ∈ rest, test element := fun element member =>
          above element member passes
        simp [passes, List.filter_eq_self.mpr all]
      · simp [passes, ih tail]

/-- The elements that pass among the last ones are themselves the last ones. -/
theorem filter_rtake (upward : list.Pairwise fun left right => test left → test right)
    (count : Nat) :
    (list.rtake count).filter test = list.rtake (min count (list.countP test)) := by
  induction list using List.reverseRecOn generalizing count with
  | nil => simp
  | append_singleton list newest ih =>
      obtain ⟨inside, -, below⟩ := List.pairwise_append.mp upward
      cases count with
      | zero => simp
      | succ count =>
          by_cases passes : test newest
          · rw [List.rtake_concat_succ, List.filter_append, ih inside]
            simp [passes]
          · have fails : ∀ element ∈ list ++ [newest], ¬test element := by
              intro element member
              rcases List.mem_append.mp member with old | new
              · exact fun passed => passes (below element old newest (by simp) passed)
              · obtain rfl := List.mem_singleton.mp new
                exact passes
            rw [List.countP_eq_zero.mpr fails, Nat.min_zero, List.rtake_zero]
            apply List.filter_eq_nil_iff.mpr
            intro element member
            exact fails element (List.mem_of_mem_drop member)

end Upward

theorem length_rtake {α : Type} (list : List α) (count : Nat) :
    (list.rtake count).length = min count list.length := by
  simp [List.rtake]
  omega

theorem rtake_of_length_le {α : Type} {list : List α} {count : Nat}
    (short : list.length ≤ count) : list.rtake count = list := by
  rw [List.rtake, Nat.sub_eq_zero_of_le short, List.drop_zero]

theorem rtake_rtake {α : Type} (list : List α) (outer inner : Nat) :
    (list.rtake inner).rtake outer = list.rtake (min inner outer) := by
  rw [List.rtake, length_rtake, List.rtake, List.drop_drop, List.rtake]
  congr 1
  omega

theorem tail_rtake_succ {α : Type} {list : List α} {count : Nat} (long : count < list.length) :
    (list.rtake (count + 1)).tail = list.rtake count := by
  rw [List.rtake, List.tail_drop, List.rtake]
  congr 1
  omega

/-! ## Windows over the outcomes so far -/

variable {horizon : Duration} {now : Int} {samples : List Sample} {window : Window}

/-- Outcomes up to an instant, in the order in which they were recorded. -/
structure Recorded (samples : List Sample) (now : Int) : Prop where
  /-- None was recorded before the one ahead of it. -/
  ordered : samples.Pairwise fun left right => left.instant ≤ right.instant
  /-- None was recorded after the instant. -/
  past : ∀ sample ∈ samples, sample.instant ≤ now

/-- The window holds the latest of the outcomes so far: not more than its capacity, and all of the
young ones that its capacity admits. -/
def Covers (horizon : Duration) (now : Int) (samples : List Sample) (window : Window) : Prop :=
  ∃ count, window.samples = samples.rtake count ∧ count ≤ capacity ∧
    min capacity (samples.countP (·.isRecent horizon now)) ≤ count

theorem Recorded.nil (now : Int) : Recorded [] now := ⟨.nil, by simp⟩

theorem Recorded.later (recorded : Recorded samples now) {later : Int} (passed : now ≤ later) :
    Recorded samples later :=
  ⟨recorded.ordered, fun sample member => Int.le_trans (recorded.past sample member) passed⟩

theorem Recorded.append (recorded : Recorded samples now) (succeeded : Bool) :
    Recorded (samples ++ [⟨now, succeeded⟩]) now where
  ordered := by
    refine List.pairwise_append.mpr ⟨recorded.ordered, List.pairwise_singleton _ _, ?_⟩
    intro old member newest single
    obtain rfl := List.mem_singleton.mp single
    exact recorded.past old member
  past := by
    intro sample member
    rcases List.mem_append.mp member with old | new
    · exact recorded.past sample old
    · obtain rfl := List.mem_singleton.mp new
      exact Int.le_refl _

/-- An outcome is young enough if an older one is. -/
theorem Recorded.upward (recorded : Recorded samples now) (horizon : Duration) (instant : Int) :
    samples.Pairwise fun left right =>
      left.isRecent horizon instant → right.isRecent horizon instant := by
  refine recorded.ordered.imp ?_
  intro left right before recent
  simp only [Sample.isRecent, decide_eq_true_eq] at recent ⊢
  omega

theorem prune_samples (window : Window) :
    (window.prune horizon now).samples =
      window.samples.dropWhile fun sample => !sample.isRecent horizon now := by
  simp only [prune]
  congr 1
  funext sample
  simp only [Sample.isRecent, elapsedSince, ← decide_not]
  exact decide_eq_decide.mpr (Int.lt_toNat.trans Int.not_le.symm)

/-- Pruning the last outcomes leaves the young ones among them. -/
theorem prune_rtake (recorded : Recorded samples now) {count : Nat}
    (held : window.samples = samples.rtake count) :
    (window.prune horizon now).samples =
      samples.rtake (min count (samples.countP (·.isRecent horizon now))) := by
  have upward := recorded.upward horizon now
  rw [prune_samples, held, ← filter_rtake upward count]
  exact dropWhile_not_eq_filter (upward.sublist (List.drop_sublist _ _))

/-- A new outcome pushes out the oldest one of a full window. -/
theorem push_rtake (sample : Sample) {count : Nat} (held : window.samples = samples.rtake count)
    (bounded : count ≤ capacity) :
    (window.push sample).samples = (samples ++ [sample]).rtake (min (count + 1) capacity) := by
  simp only [push, held, ← List.rtake_concat_succ, length_rtake]
  split
  · have full : count = capacity := by omega
    rw [full, Nat.min_eq_right (Nat.le_succ _)]
    exact tail_rtake_succ (by omega)
  · rcases Nat.lt_or_ge count capacity with below | above
    · rw [Nat.min_eq_left below]
    · rw [Nat.min_eq_right (by omega), rtake_of_length_le (by omega),
        rtake_of_length_le (by omega)]

theorem Covers.empty (horizon : Duration) (now : Int) : Covers horizon now [] .empty :=
  ⟨0, rfl, Nat.zero_le _, by simp⟩

/-- Time passing makes no outcome young. -/
theorem Covers.later (covers : Covers horizon now samples window) {later : Int}
    (passed : now ≤ later) : Covers horizon later samples window := by
  obtain ⟨count, held, bounded, enough⟩ := covers
  have fewer : samples.countP (·.isRecent horizon later) ≤
      samples.countP (·.isRecent horizon now) := by
    refine List.countP_mono_left fun sample _ recent => ?_
    simp only [Sample.isRecent, decide_eq_true_eq] at recent ⊢
    omega
  exact ⟨count, held, bounded, by omega⟩

theorem Covers.prune (covers : Covers horizon now samples window)
    (recorded : Recorded samples now) :
    Covers horizon now samples (window.prune horizon now) := by
  obtain ⟨count, held, bounded, enough⟩ := covers
  exact ⟨_, prune_rtake recorded held, by omega, by omega⟩

theorem Covers.record (covers : Covers horizon now samples window)
    (recorded : Recorded samples now) (succeeded : Bool) :
    Covers horizon now (samples ++ [⟨now, succeeded⟩]) (window.record horizon now succeeded) := by
  obtain ⟨count, held, bounded, enough⟩ := covers
  refine ⟨_, prune_rtake (recorded.append succeeded) (push_rtake _ held bounded), by omega, ?_⟩
  have recent : Sample.isRecent horizon now ⟨now, succeeded⟩ = true := by simp [Sample.isRecent]
  rw [List.countP_append, List.countP_singleton, if_pos recent]
  omega

/-- A pruned window holds exactly the latest of the young outcomes. -/
theorem Covers.prune_samples_eq (covers : Covers horizon now samples window)
    (recorded : Recorded samples now) :
    (window.prune horizon now).samples =
      (samples.filter (·.isRecent horizon now)).rtake capacity := by
  obtain ⟨count, held, bounded, enough⟩ := covers
  have upward := recorded.upward horizon now
  have young : samples.filter (·.isRecent horizon now) =
      samples.rtake (samples.countP (·.isRecent horizon now)) := by
    have all := filter_rtake upward samples.length
    rwa [rtake_of_length_le (Nat.le_refl _), Nat.min_eq_right List.countP_le_length] at all
  rw [prune_rtake recorded held, young, rtake_rtake]
  congr 1
  omega

/-- A window that was just recorded to is pruned already. -/
theorem record_prune (window : Window) (succeeded : Bool) :
    (window.record horizon now succeeded).prune horizon now =
      window.record horizon now succeeded := by
  simp only [record, prune, List.dropWhile_idempotent]

end Window

end ProviderRouting
