import Mathlib.Data.List.Perm.Basic
import Mathlib.Data.List.Induction
import Mathlib.Data.List.Lattice
import Mathlib.Order.Basic
import Mathlib.Data.String.Basic
import ProviderRouting.Table

/-!
# Tables and their lookups

A table is determined by its lookups, and its entries are what it gives to their names.
-/

namespace ProviderRouting

namespace Table

variable {α β : Type} {table : Table α} {name : String} {value : α}

theorem mem_of_find {entries : List (String × α)} (found : find name entries = some value) :
    (name, value) ∈ entries := by
  induction entries with
  | nil => exact absurd found nofun
  | cons head rest ih =>
      obtain ⟨key, first⟩ := head
      by_cases same : key = name
      · subst same
        obtain rfl : first = value := by simpa [find] using found
        exact List.mem_cons_self
      · exact List.mem_cons_of_mem _ (ih (by simpa [find, same] using found))

theorem find_of_mem {entries : List (String × α)}
    (sorted : entries.Pairwise fun left right => left.1 < right.1)
    (member : (name, value) ∈ entries) : find name entries = some value := by
  induction entries with
  | nil => exact absurd member List.not_mem_nil
  | cons head rest ih =>
      obtain ⟨below, tail⟩ := List.pairwise_cons.mp sorted
      rcases List.mem_cons.mp member with rfl | later
      · simp [find]
      · have different : head.1 ≠ name := ne_of_lt (below _ later)
        simpa [find, different] using ih tail later

theorem find_eq_none_of_not_mem {entries : List (String × α)}
    (absent : name ∉ entries.map Prod.fst) : find name entries = none := by
  refine Option.eq_none_iff_forall_ne_some.mpr fun value found => ?_
  exact absent (List.mem_map_of_mem (mem_of_find found))

/-- The order of entries of distinct names does not matter to a lookup. -/
theorem find_perm {first second : List (String × α)} (reordered : first.Perm second)
    (distinct : (first.map Prod.fst).Nodup) : find name first = find name second := by
  induction reordered with
  | nil => rfl
  | cons entry _ ih =>
      rw [find, find, ih (List.nodup_cons.mp distinct).2]
  | swap left right rest =>
      have apart : right.1 ≠ left.1 := by
        rintro same
        exact (List.nodup_cons.mp distinct).1 (by simp [same])
      simp only [find]
      by_cases here : right.1 = name
      · have elsewhere : left.1 ≠ name := fun same => apart (here.trans same.symm)
        simp [here, elsewhere]
      · simp [here]
  | trans front _ firstIh secondIh =>
      exact (firstIh distinct).trans (secondIh ((front.map Prod.fst).nodup_iff.mp distinct))

theorem mem_entries_iff : (name, value) ∈ table.entries ↔ table.get? name = some value :=
  ⟨find_of_mem table.sorted, mem_of_find⟩

/-- A table is determined by its lookups. -/
theorem ext_get? {left right : Table α} (lookups : ∀ name, left.get? name = right.get? name) :
    left = right := by
  have nodup (table : Table α) : table.entries.Nodup :=
    table.sorted.imp fun before same => absurd (congrArg Prod.fst same) (ne_of_lt before)
  have members (entry : String × α) : entry ∈ left.entries ↔ entry ∈ right.entries := by
    rw [mem_entries_iff, mem_entries_iff, lookups]
  have reordered : left.entries.Perm right.entries :=
    (List.perm_ext_iff_of_nodup (nodup left) (nodup right)).mpr members
  have same : left.entries = right.entries := by
    refine reordered.eq_of_pairwise ?_ left.sorted right.sorted
    intro first second _ _ before after
    exact absurd (lt_trans before after) (lt_irrefl _)
  cases left
  cases right
  congr

theorem mem_names_iff : name ∈ table.names ↔ (table.get? name).isSome := by
  simp only [names, List.mem_map, Prod.exists, mem_entries_iff, Option.isSome_iff_exists]
  constructor
  · rintro ⟨_, value, found, rfl⟩
    exact ⟨value, found⟩
  · rintro ⟨value, found⟩
    exact ⟨name, value, found, rfl⟩

theorem names_map (change : String → α → β) (table : Table α) :
    (table.map change).names = table.names :=
  List.map_map

theorem nodup_names (table : Table α) : table.names.Nodup :=
  (List.pairwise_map.mpr table.sorted).imp ne_of_lt

/-- Filtering a table filters its lookups. -/
@[simp] theorem get?_filter (keep : String → α → Bool) (table : Table α) (name : String) :
    (table.filter keep).get? name = (table.get? name).filter (keep name) := by
  refine Option.ext fun value => ?_
  rw [Option.filter_eq_some_iff, ← mem_entries_iff, ← mem_entries_iff]
  exact List.mem_filter

@[simp] theorem get?_erase (table : Table α) (name key : String) :
    (table.erase name).get? key = if key = name then none else table.get? key := by
  rw [erase, get?_filter]
  by_cases same : key = name
  · simp [same]
  · cases table.get? key <;> simp [same]

theorem countP_values_eq (table : Table α) (test : α → Bool) :
    table.values.countP test = (table.filter fun _ => test).size := by
  rw [values, List.countP_map, List.countP_eq_length_filter]
  rfl

theorem map_filter_eq (value : Option α) (test : α → Bool) :
    ((value.filter test).map fun _ => ()) = if value.any test then some () else none := by
  cases value with
  | none => rfl
  | some value => cases passes : test value <;> simp [passes]

/-- Two tables count alike if every name counts alike in them. -/
theorem countP_values {left : Table α} {right : Table β} {first : α → Bool} {second : β → Bool}
    (alike : ∀ name, (left.get? name).any first = (right.get? name).any second) :
    left.values.countP first = right.values.countP second := by
  have kept : (left.filter fun _ => first).map (fun _ _ => ()) =
      (right.filter fun _ => second).map fun _ _ => () := by
    refine ext_get? fun name => ?_
    rw [get?_map, get?_map, get?_filter, get?_filter, map_filter_eq, map_filter_eq, alike]
  have sizes := congrArg Table.size kept
  rw [countP_values_eq, countP_values_eq]
  simpa [size, map] using sizes

theorem isSome_get?_ofNames (names : List String) (name : String) :
    ((ofNames names).get? name).isSome ↔ name ∈ names := by
  induction names using List.reverseRecOn with
  | nil => simp [ofNames, ofList]
  | append_singleton names last ih =>
      have grown : ofNames (names ++ [last]) = (ofNames names).insert last () := by
        simp [ofNames, ofList]
      rw [grown, get?_insert, List.mem_append, List.mem_singleton, ← ih]
      by_cases here : last = name
      · simp [here]
      · simp [here, Ne.symm here]

end Table

theorem mem_distinctNames {names : List String} {name : String} :
    name ∈ distinctNames names ↔ name ∈ names := by
  rw [distinctNames, Table.mem_names_iff, Table.isSome_get?_ofNames]

theorem distinctNames_sorted (names : List String) :
    (distinctNames names).Pairwise (· < ·) :=
  List.pairwise_map.mpr (Table.ofNames names).sorted

end ProviderRouting
