/-!
# Tables keyed by name

A table assigns values to names.  Its entries stand in strictly increasing order of their names, so
every listing of a table is in name order and a name occurs in it at most once.  The two lookup
equations are `get?_insert` and `get?_map`.
-/

namespace ProviderRouting

/-- A finite assignment of values to names, listed in strictly increasing name order. -/
structure Table (α : Type) where
  /-- The names with their values. -/
  entries : List (String × α)
  /-- Every name stands before all larger ones. -/
  sorted : entries.Pairwise fun left right => left.1 < right.1

namespace Table

variable {α β : Type}

/-- The table without entries. -/
def empty : Table α := ⟨[], .nil⟩

instance : Inhabited (Table α) := ⟨empty⟩

/-- The value that a list of entries gives to a name. -/
def find (name : String) : List (String × α) → Option α
  | [] => none
  | (key, value) :: rest => if key = name then some value else find name rest

/-- The value of a name. -/
def get? (table : Table α) (name : String) : Option α := find name table.entries

/-- Whether a name has a value. -/
def contains (table : Table α) (name : String) : Bool := (table.get? name).isSome

/-- The number of names. -/
def size (table : Table α) : Nat := table.entries.length

/-- The names in increasing order. -/
def names (table : Table α) : List String := table.entries.map (·.1)

/-- The values in the order of their names. -/
def values (table : Table α) : List α := table.entries.map (·.2)

/-- Put a value at the place of its name. -/
def place (name : String) (value : α) : List (String × α) → List (String × α)
  | [] => [(name, value)]
  | (key, old) :: rest =>
    if name < key then (name, value) :: (key, old) :: rest
    else if key = name then (name, value) :: rest
    else (key, old) :: place name value rest

theorem mem_place {name : String} {value : α} {entries : List (String × α)}
    {entry : String × α} (member : entry ∈ place name value entries) :
    entry = (name, value) ∨ entry ∈ entries := by
  induction entries with
  | nil => simpa [place] using member
  | cons head rest ih =>
    obtain ⟨key, old⟩ := head
    unfold place at member
    split at member
    · simpa using member
    · split at member
      · rcases List.mem_cons.1 member with rfl | later
        · exact .inl rfl
        · exact .inr (List.mem_cons_of_mem _ later)
      · rcases List.mem_cons.1 member with rfl | later
        · exact .inr List.mem_cons_self
        · rcases ih later with rfl | earlier
          · exact .inl rfl
          · exact .inr (List.mem_cons_of_mem _ earlier)

theorem sorted_place {name : String} {value : α} {entries : List (String × α)}
    (sorted : entries.Pairwise fun left right => left.1 < right.1) :
    (place name value entries).Pairwise fun left right => left.1 < right.1 := by
  induction entries with
  | nil => simp [place]
  | cons head rest ih =>
    obtain ⟨key, old⟩ := head
    obtain ⟨below, tail⟩ := List.pairwise_cons.1 sorted
    unfold place
    split
    · rename_i before
      refine List.pairwise_cons.2 ⟨?_, sorted⟩
      intro entry member
      rcases List.mem_cons.1 member with rfl | later
      · exact before
      · exact String.lt_trans before (below entry later)
    · rename_i notBefore
      split
      · rename_i same
        subst same
        exact List.pairwise_cons.2 ⟨below, tail⟩
      · rename_i different
        refine List.pairwise_cons.2 ⟨?_, ih tail⟩
        intro entry member
        rcases mem_place member with rfl | earlier
        · apply Decidable.by_contra
          intro notAfter
          exact different
            (String.le_antisymm (String.not_lt.1 notBefore) (String.not_lt.1 notAfter))
        · exact below entry earlier

/-- Give a name a value, in place of the one it had. -/
def insert (table : Table α) (name : String) (value : α) : Table α :=
  ⟨place name value table.entries, sorted_place table.sorted⟩

/-- Change every value. -/
def map (change : String → α → β) (table : Table α) : Table β :=
  ⟨table.entries.map fun entry => (entry.1, change entry.1 entry.2),
    List.pairwise_map.2 (table.sorted.imp fun before => before)⟩

/-- Keep the entries that pass a test. -/
def filter (keep : String → α → Bool) (table : Table α) : Table α :=
  ⟨table.entries.filter fun entry => keep entry.1 entry.2, table.sorted.filter _⟩

/-- The table of a list of entries; the last entry for a name counts. -/
def ofList (entries : List (String × α)) : Table α :=
  entries.foldl (fun table entry => table.insert entry.1 entry.2) empty

/-- The table without a name. -/
def erase (table : Table α) (name : String) : Table α := table.filter fun key _ => key ≠ name

/-- The table of the names in a list, without values. -/
def ofNames (names : List String) : Table Unit := ofList (names.map fun name => (name, ()))

theorem find_place (name key : String) (value : α) (entries : List (String × α)) :
    find key (place name value entries) = if name = key then some value else find key entries := by
  induction entries with
  | nil => simp [place, find]
  | cons head rest ih =>
    obtain ⟨first, old⟩ := head
    unfold place
    split
    · simp [find]
    · split
      · rename_i same
        subst same
        by_cases equal : first = key <;> simp [find, equal]
      · rename_i different
        by_cases equal : first = key
        · subst equal
          simp [find, Ne.symm different]
        · simp [find, equal, ih]

@[simp] theorem get?_empty (name : String) : (empty : Table α).get? name = none := rfl

/-- An insertion changes the value of its own name only. -/
@[simp] theorem get?_insert (table : Table α) (name key : String) (value : α) :
    (table.insert name value).get? key = if name = key then some value else table.get? key :=
  find_place name key value table.entries

/-- Changing every value changes every lookup alike. -/
@[simp] theorem get?_map (change : String → α → β) (table : Table α) (name : String) :
    (table.map change).get? name = (table.get? name).map (change name) := by
  obtain ⟨entries, sorted⟩ := table
  unfold get? map
  induction entries with
  | nil => rfl
  | cons head rest ih =>
    by_cases equal : head.1 = name
    · subst equal; simp [find]
    · simpa [find, equal] using ih (List.pairwise_cons.1 sorted).2

end Table

/-- The names in a list, each once, in name order. -/
def distinctNames (names : List String) : List String := (Table.ofNames names).names

end ProviderRouting
