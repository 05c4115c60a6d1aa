import Mathlib.Data.List.Induction
import ProviderRouting.Proofs.Tables
import ProviderRouting.Proofs.Time.Timestamps
import ProviderRouting.Sharing.Store

/-!
# Last-writer-wins registers

What a sequence of publishes leaves for a provider is fixed without any store: the published state
with the latest update, and of those with the same update the last.  Keeping every state unless a
later one is there leaves just that.
-/

namespace ProviderRouting

/-- The state that counts of those published for a provider: none published earlier was updated
after it, and all published later were updated before it. -/
def IsLatest (publishes : List (String × SharedState)) (provider : String) (state : SharedState) :
    Prop :=
  ∃ earlier later, publishes = earlier ++ (provider, state) :: later ∧
    (∀ old, (provider, old) ∈ earlier → old.updatedAt ≤ state.updatedAt) ∧
    ∀ new, (provider, new) ∈ later → new.updatedAt < state.updatedAt

namespace IsLatest

variable {publishes : List (String × SharedState)} {provider other : String}
  {state new : SharedState}

theorem mem (latest : IsLatest publishes provider state) : (provider, state) ∈ publishes := by
  obtain ⟨earlier, later, rfl, -, -⟩ := latest
  exact List.mem_append_right _ List.mem_cons_self

/-- No published state was updated after the one that counts. -/
theorem bound (latest : IsLatest publishes provider state)
    (published : (provider, new) ∈ publishes) :
    new.updatedAt ≤ state.updatedAt := by
  obtain ⟨earlier, later, rfl, before, after⟩ := latest
  rcases List.mem_append.mp published with early | rest
  · exact before new early
  · rcases List.mem_cons.mp rest with same | late
    · obtain ⟨-, rfl⟩ := Prod.mk.inj same
      exact le_rfl
    · exact (after new late).le

/-- At most one of the published states counts. -/
theorem unique (first : IsLatest publishes provider state)
    (second : IsLatest publishes provider new) : state = new := by
  have ahead := second.bound first.mem
  have behind := first.bound second.mem
  obtain ⟨earlier, later, rfl, -, after⟩ := first
  obtain ⟨others, rest, split, -, afterwards⟩ := second
  -- The one that was published first would have to be updated after the other one.
  rcases List.append_eq_append_iff.mp split with ⟨between, -, tail⟩ | ⟨between, -, tail⟩
  · cases between with
    | nil => exact (Prod.mk.inj (List.cons.inj tail).1).2
    | cons head between =>
        obtain ⟨-, rfl⟩ := List.cons.inj tail
        exact absurd ahead (after new (by simp)).not_ge
  · cases between with
    | nil => exact (Prod.mk.inj (List.cons.inj tail).1).2.symm
    | cons head between =>
        obtain ⟨-, rfl⟩ := List.cons.inj tail
        exact absurd behind (afterwards state (by simp)).not_ge

/-- A state counts once it is published if none was updated after it. -/
theorem of_last
    (bound : ∀ old, (provider, old) ∈ publishes → old.updatedAt ≤ new.updatedAt) :
    IsLatest (publishes ++ [(provider, new)]) provider new :=
  ⟨publishes, [], rfl, bound, nofun⟩

/-- A state keeps counting unless one for the same provider follows that is not updated before. -/
theorem append (latest : IsLatest publishes provider state)
    (gives : other = provider → new.updatedAt < state.updatedAt) :
    IsLatest (publishes ++ [(other, new)]) provider state := by
  obtain ⟨earlier, later, rfl, before, after⟩ := latest
  refine ⟨earlier, later ++ [(other, new)], by simp, before, ?_⟩
  intro published member
  rcases List.mem_append.mp member with old | last
  · exact after published old
  · obtain ⟨same, rfl⟩ := Prod.mk.inj (List.mem_singleton.mp last)
    exact gives same.symm

end IsLatest

/-- No two states of one provider have the same update. -/
def Untied (publishes : List (String × SharedState)) : Prop :=
  publishes.Pairwise fun first second =>
    first.1 = second.1 → first.2.updatedAt ≠ second.2.updatedAt

/-- Without ties the order of the publishes does not matter. -/
theorem isLatest_iff_of_untied {publishes : List (String × SharedState)} (untied : Untied publishes)
    {provider : String} {state : SharedState} :
    IsLatest publishes provider state ↔ (provider, state) ∈ publishes ∧
      ∀ other, (provider, other) ∈ publishes → other.updatedAt ≤ state.updatedAt := by
  constructor
  · intro latest
    exact ⟨latest.mem, fun _ published => latest.bound published⟩
  · rintro ⟨member, bound⟩
    obtain ⟨earlier, later, rfl⟩ := List.append_of_mem member
    refine ⟨earlier, later, rfl, fun old early => bound old (List.mem_append_left _ early), ?_⟩
    intro new late
    have tail := (List.pairwise_append.mp untied).2.1
    have different := (List.pairwise_cons.mp tail).1 (provider, new) late rfl
    have ahead := bound new (List.mem_append_right _ (List.mem_cons_of_mem _ late))
    exact lt_of_le_of_ne ahead different.symm

/-- The states that are kept when more are published one after the other. -/
def placeEach (publishes : List (String × SharedState)) (states : Table SharedState) :
    Table SharedState :=
  publishes.foldl (fun states publish => MemoryStore.place publish.1 publish.2 states) states

/-- The states that are kept when none were kept before. -/
def register (publishes : List (String × SharedState)) : Table SharedState :=
  placeEach publishes .empty

section

variable {publishes : List (String × SharedState)} {provider : String} {state : SharedState}

theorem register_append (publishes : List (String × SharedState)) (provider : String)
    (state : SharedState) :
    register (publishes ++ [(provider, state)]) =
      MemoryStore.place provider state (register publishes) := by
  simp [register, placeEach]

theorem get?_place_self (provider : String) (state : SharedState) (states : Table SharedState) :
    (MemoryStore.place provider state states).get? provider =
      some (match states.get? provider with
        | some old => if old.givesWayTo state then state else old
        | none => state) := by
  rw [MemoryStore.place]
  cases found : states.get? provider with
  | none => simp
  | some old => by_cases gives : old.givesWayTo state <;> simp [gives, found]

theorem get?_place_of_ne {other : String} (different : other ≠ provider) (state : SharedState)
    (states : Table SharedState) :
    (MemoryStore.place provider state states).get? other = states.get? other := by
  rw [MemoryStore.place]
  cases states.get? provider with
  | none => simp [different.symm]
  | some old => by_cases gives : old.givesWayTo state <;> simp [gives, different.symm]

theorem get?_register_isSome :
    ((register publishes).get? provider).isSome ↔ ∃ state, (provider, state) ∈ publishes := by
  induction publishes using List.reverseRecOn with
  | nil => simp [register, placeEach, Table.get?, Table.empty, Table.find]
  | append_singleton publishes publish ih =>
      obtain ⟨other, new⟩ := publish
      rw [register_append]
      by_cases same : provider = other
      · subst same
        rw [get?_place_self]
        exact ⟨fun _ => ⟨new, by simp⟩, fun _ => rfl⟩
      · rw [get?_place_of_ne same, ih]
        simp [same]

theorem isLatest_of_get?_register (found : (register publishes).get? provider = some state) :
    IsLatest publishes provider state := by
  induction publishes using List.reverseRecOn generalizing state with
  | nil => exact absurd found nofun
  | append_singleton publishes publish ih =>
      obtain ⟨other, new⟩ := publish
      rw [register_append] at found
      by_cases same : provider = other
      · subst same
        rw [get?_place_self] at found
        cases kept : (register publishes).get? provider with
        | none =>
            have unpublished : ∀ old, (provider, old) ∉ publishes := fun old member => by
              simpa [kept] using get?_register_isSome.mpr ⟨old, member⟩
            obtain rfl : new = state := by simpa [kept] using found
            exact .of_last fun old member => absurd member (unpublished old)
        | some old =>
            have latest := ih kept
            by_cases gives : old.givesWayTo new
            · obtain rfl : new = state := by simpa [kept, gives] using found
              exact .of_last fun earlier member =>
                (latest.bound member).trans (SharedState.givesWayTo_iff.mp gives)
            · obtain rfl : old = state := by simpa [kept, gives] using found
              exact latest.append fun _ => lt_of_not_ge (mt SharedState.givesWayTo_iff.mpr gives)
      · rw [get?_place_of_ne same] at found
        exact (ih found).append fun equal => absurd equal.symm same

/-- What is kept for a provider is the state that counts. -/
theorem get?_register :
    (register publishes).get? provider = some state ↔ IsLatest publishes provider state := by
  constructor
  · exact isLatest_of_get?_register
  · intro latest
    obtain ⟨kept, found⟩ := Option.isSome_iff_exists.mp
      (get?_register_isSome.mpr ⟨state, latest.mem⟩)
    rw [found, (isLatest_of_get?_register found).unique latest]

/-- Without ties the publishes may come in any order. -/
theorem register_perm {reordered : List (String × SharedState)} (untied : Untied publishes)
    (permuted : reordered.Perm publishes) : register reordered = register publishes := by
  have alike : Untied reordered :=
    (permuted.pairwise_iff fun apart same => (apart same.symm).symm).mpr untied
  refine Table.ext_get? fun provider => Option.ext fun state => ?_
  rw [get?_register, get?_register, isLatest_iff_of_untied untied, isLatest_iff_of_untied alike]
  simp only [permuted.mem_iff]

end

end ProviderRouting
