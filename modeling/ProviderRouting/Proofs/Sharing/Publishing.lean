import ProviderRouting.Proofs.Sharing.EntryFiles
import ProviderRouting.Proofs.Sharing.Register

/-!
# Both stores are last-writer-wins registers

A store in memory keeps the states themselves, a store in a folder keeps a file for each of them.
As long as the files are the entries of the states, a publish does the same to both, and fetching
from the folder finds the states again.
-/

namespace ProviderRouting

/-- The files of a folder are the entries of the states. -/
structure Files (items : Table FolderItem) (states : Table SharedState) : Prop where
  /-- Every file is that of a provider with a state, and holds the entry. -/
  lookup : ∀ name item, items.get? name = some item ↔
    ∃ provider state, states.get? provider = some state ∧ name = EntryName.ofProvider provider ∧
      item = .file (StoreEntry.write ⟨provider, state⟩).toUTF8
  /-- Every entry can be found and read. -/
  readable : ∀ provider state, states.get? provider = some state →
    provider ≠ "" ∧ Folder.nameFault (EntryName.ofProvider provider) = none ∧ state.Legible

namespace Files

variable {items : Table FolderItem} {states : Table SharedState} {provider : String}
  {state : SharedState}

theorem empty : Files .empty .empty := by
  constructor <;> simp

theorem filed (files : Files items states) (kept : states.get? provider = some state) :
    items.get? (EntryName.ofProvider provider) =
      some (.file (StoreEntry.write ⟨provider, state⟩).toUTF8) :=
  (files.lookup _ _).mpr ⟨provider, state, kept, rfl, rfl⟩

theorem kept_of_name (files : Files items states) {name : String} (member : name ∈ items.names) :
    ∃ provider state, states.get? provider = some state ∧
      name = EntryName.ofProvider provider := by
  obtain ⟨item, filed⟩ := Option.isSome_iff_exists.mp (Table.mem_names_iff.mp member)
  obtain ⟨provider, state, kept, same, -⟩ := (files.lookup _ _).mp filed
  exact ⟨provider, state, kept, same⟩

theorem vacant (files : Files items states) (unknown : states.get? provider = none) :
    items.get? (EntryName.ofProvider provider) = none := by
  refine Option.eq_none_iff_forall_ne_some.mpr fun item filed => ?_
  obtain ⟨other, state, kept, same, -⟩ := (files.lookup _ _).mp filed
  rw [EntryName.ofProvider_inj] at same
  subst same
  rw [unknown] at kept
  exact absurd kept nofun

/-- The entry of every provider with a state is found. -/
theorem entry (files : Files items states) (kept : states.get? provider = some state) :
    (Folder.present items).entry (EntryName.ofProvider provider) =
      .ok (some ⟨provider, state⟩) := by
  obtain ⟨-, usable, legible⟩ := files.readable provider state kept
  exact Folder.entry_of_file usable legible (files.filed kept)

/-- Writing the file of one provider keeps the state of that provider. -/
theorem insert (files : Files items states) (named : provider ≠ "")
    (usable : Folder.nameFault (EntryName.ofProvider provider) = none) (legible : state.Legible)
    {after : Table FolderItem}
    (placed : ∀ name, after.get? name =
      if name = EntryName.ofProvider provider then
        some (.file (StoreEntry.write ⟨provider, state⟩).toUTF8)
      else items.get? name) :
    Files after (states.insert provider state) where
  lookup name item := by
    rw [placed]
    by_cases own : name = EntryName.ofProvider provider
    · subst own
      simp only [if_true, Table.get?_insert, EntryName.ofProvider_inj]
      constructor
      · rintro ⟨rfl⟩
        exact ⟨provider, state, by simp, rfl, rfl⟩
      · rintro ⟨other, kept, found, rfl, rfl⟩
        obtain rfl : state = kept := by simpa using found
        rfl
    · rw [if_neg own, files.lookup]
      refine exists_congr fun other => exists_congr fun kept => and_congr_left fun written => ?_
      have different : provider ≠ other := fun same => own (by rw [written.1, same])
      rw [Table.get?_insert, if_neg different]
  readable other kept found := by
    by_cases same : provider = other
    · subst same
      obtain rfl : state = kept := by simpa using found
      exact ⟨named, usable, legible⟩
    · exact files.readable other kept (by simpa [same] using found)

/-- Publishing to the folder keeps what publishing to memory keeps. -/
theorem publish (files : Files items states) (named : provider ≠ "") (legible : state.Legible)
    {temporary : String} (free : items.get? temporary = none) {after : Folder}
    (accepted : FolderStore.publish Folder.access temporary provider state (.present items) =
      (.ok (), after)) :
    ∃ changed, after = .present changed ∧
      Files changed (MemoryStore.place provider state states) := by
  have replaced (written : FolderStore.replaceEntry Folder.access temporary ⟨provider, state⟩
      (.present items) = (.ok (), after)) : ∃ changed, after = .present changed ∧
        Files changed (states.insert provider state) := by
    obtain ⟨usable, changed, rfl, placed⟩ := Folder.replaceEntry_present free written
    exact ⟨changed, rfl, files.insert named usable legible placed⟩
  rw [Folder.publish_present] at accepted
  rw [MemoryStore.place]
  cases kept : states.get? provider with
  | none =>
      rcases Folder.entry_of_vacant (files.vacant kept) with absent | ⟨fault, unusable⟩
      · simp only [absent] at accepted
        exact replaced accepted
      · simp only [unusable] at accepted
        cases congrArg Prod.fst accepted
  | some old =>
      simp only [files.entry kept] at accepted
      by_cases gives : old.givesWayTo state
      · simp only [gives, if_true] at accepted ⊢
        exact replaced accepted
      · simp only [gives] at accepted ⊢
        obtain ⟨-, rfl⟩ := Prod.mk.inj accepted
        exact ⟨items, rfl, files⟩

/-- Reading some of the files gives the states of their providers. -/
theorem get?_gathered (files : Files items states) {names : List String}
    (held : ∀ name ∈ names, name ∈ items.names) (seed : Table SharedState) (provider : String) :
    (names.foldl (Folder.present items).gather seed).get? provider =
      if EntryName.ofProvider provider ∈ names then states.get? provider
      else seed.get? provider := by
  induction names generalizing seed with
  | nil => rfl
  | cons name names ih =>
      obtain ⟨first, others⟩ := List.forall_mem_cons.mp held
      obtain ⟨other, kept, found, rfl⟩ := files.kept_of_name first
      have gathered : (Folder.present items).gather seed (EntryName.ofProvider other) =
          seed.insert other kept := by
        rw [Folder.gather, files.entry found]
      rw [List.foldl_cons, gathered, ih others]
      by_cases same : other = provider
      · subst same
        simp [found]
      · simp [same, Ne.symm same]

/-- Fetching finds the states, and leaves the folder as it is. -/
theorem fetchAll (files : Files items states) :
    FolderStore.fetchAll Folder.access (.present items) = (.ok states, .present items) := by
  have entries : items.names.filter EntryName.isEntry = items.names := by
    refine List.filter_eq_self.mpr fun name member => ?_
    obtain ⟨provider, state, found, rfl⟩ := files.kept_of_name member
    exact EntryName.isEntry_ofProvider.mpr (files.readable provider state found).1
  have gathered : items.names.foldl (Folder.present items).gather .empty = states := by
    refine Table.ext_get? fun provider => ?_
    rw [files.get?_gathered (fun _ => id)]
    cases kept : states.get? provider with
    | none => simp
    | some state =>
        rw [if_pos (Table.mem_names_iff.mpr (by rw [files.filed kept]; rfl))]
  rw [Folder.fetchAll_present, entries, gathered]

end Files

namespace SharedStore

/-- Publish states one after the other: what is answered to each, and the store afterwards. -/
def publishEach : List (String × SharedState) → SharedStore →
    List (Except StoreFault Unit) × SharedStore
  | [], store => ([], store)
  | (provider, state) :: rest, store =>
    let outcome := store.publish provider state
    let later := publishEach rest outcome.2
    (outcome.1 :: later.1, later.2)

/-- A store in memory that is on takes every publish. -/
theorem publishEach_memory (publishes : List (String × SharedState)) (states : Table SharedState) :
    publishEach publishes (.memory ⟨states, true⟩) =
      (publishes.map fun _ => .ok (),
        .memory ⟨placeEach publishes states, true⟩) := by
  induction publishes generalizing states with
  | nil => rfl
  | cons publish publishes ih =>
      have taken : (SharedStore.memory ⟨states, true⟩).publish publish.1 publish.2 =
          (.ok (), .memory ⟨MemoryStore.place publish.1 publish.2 states, true⟩) := rfl
      rw [publishEach, taken, ih]
      rfl

/-- A store in memory that is off takes none. -/
theorem publishEach_off (publishes : List (String × SharedState)) (states : Table SharedState) :
    publishEach publishes (.memory ⟨states, false⟩) =
      (publishes.map fun _ => .error .unavailable, .memory ⟨states, false⟩) := by
  induction publishes with
  | nil => rfl
  | cons publish publishes ih =>
      have refused : (SharedStore.memory ⟨states, false⟩).publish publish.1 publish.2 =
          (.error .unavailable, .memory ⟨states, false⟩) := rfl
      rw [publishEach, refused, ih]
      rfl

/-- A missing folder is made by the first publish, and until then nothing can be fetched from it. -/
theorem publishEach_missing (publishes : List (String × SharedState)) :
    (publishEach publishes (.folder .missing)).1 =
        (publishEach publishes (.folder (.present .empty))).1 ∧
      (publishEach publishes (.folder .missing)).2.fetchAll =
        (publishEach publishes (.folder (.present .empty))).2.fetchAll := by
  cases publishes with
  | nil => exact ⟨rfl, rfl⟩
  | cons publish publishes => exact ⟨rfl, rfl⟩

/-- As long as no publish fails, the files stay the entries of what a store in memory keeps. -/
theorem publishEach_folder {publishes : List (String × SharedState)} {items : Table FolderItem}
    {states : Table SharedState} (files : Files items states)
    (named : ∀ publish ∈ publishes, publish.1 ≠ "")
    (legible : ∀ publish ∈ publishes, publish.2.Legible)
    (accepted : ∀ answer ∈ (publishEach publishes (.folder (.present items))).1, answer = .ok ()) :
    ∃ changed, (publishEach publishes (.folder (.present items))).2 = .folder (.present changed) ∧
      Files changed (placeEach publishes states) := by
  induction publishes generalizing items states with
  | nil => exact ⟨items, rfl, files⟩
  | cons publish publishes ih =>
      obtain ⟨provider, state⟩ := publish
      rcases outcome : FolderStore.publish Folder.access (freshName (.present items)) provider state
        (.present items) with ⟨answer, after⟩
      have step : (SharedStore.folder (.present items)).publish provider state =
          (answer, .folder after) := by
        rw [publish, outcome]
      rw [publishEach, step] at accepted ⊢
      rw [List.forall_mem_cons] at named legible accepted
      obtain rfl := accepted.1
      obtain ⟨next, rfl, kept⟩ := files.publish named.1 legible.1 (get?_freshName items) outcome
      exact ih kept named.2 legible.2 accepted.2

theorem fetchAll_memory (publishes : List (String × SharedState)) :
    (publishEach publishes (.memory .empty)).2.fetchAll = .ok (register publishes) := by
  rw [MemoryStore.empty, publishEach_memory]
  rfl

variable {publishes : List (String × SharedState)} {start : Folder}

theorem fetchAll_folder (vacant : start = .missing ∨ start = .present .empty)
    (named : ∀ publish ∈ publishes, publish.1 ≠ "")
    (legible : ∀ publish ∈ publishes, publish.2.Legible)
    (accepted : ∀ answer ∈ (publishEach publishes (.folder start)).1, answer = .ok ()) :
    (publishEach publishes (.folder start)).2.fetchAll = .ok (register publishes) := by
  have made : (publishEach publishes (.folder start)).1 =
        (publishEach publishes (.folder (.present .empty))).1 ∧
      (publishEach publishes (.folder start)).2.fetchAll =
        (publishEach publishes (.folder (.present .empty))).2.fetchAll := by
    rcases vacant with rfl | rfl
    · exact publishEach_missing publishes
    · exact ⟨rfl, rfl⟩
  rw [made.1] at accepted
  obtain ⟨items, reached, files⟩ := publishEach_folder .empty named legible accepted
  rw [made.2, reached, fetchAll, files.fetchAll]
  rfl

/-- Both stores are the same last-writer-wins register.  Whatever is published, a store in memory
holds one state for each provider that something was published for: the one with the latest update,
and of several with the same update the last.  A vacant folder holds the same, if no publish to it
fails.  Without ties the order of the publishes does not matter.  A store in memory that is switched
off refuses everything, and has its states when it is switched on again. -/
theorem last_writer_wins (publishes : List (String × SharedState))
    (named : ∀ publish ∈ publishes, publish.1 ≠ "")
    (legible : ∀ publish ∈ publishes, publish.2.Legible) :
    (∃ states,
      (publishEach publishes (.memory .empty)).2.fetchAll = .ok states ∧
      (∀ start, start = .missing ∨ start = .present .empty →
        (∀ answer ∈ (publishEach publishes (.folder start)).1, answer = .ok ()) →
        (publishEach publishes (.folder start)).2.fetchAll = .ok states) ∧
      states.names.Nodup ∧
      (∀ provider, provider ∈ states.names ↔ ∃ state, (provider, state) ∈ publishes) ∧
      ∀ provider state, (provider, state) ∈ states.entries ↔ IsLatest publishes provider state) ∧
    (∀ answer ∈ (publishEach publishes (.memory .empty)).1, answer = .ok ()) ∧
    (∀ reordered, reordered.Perm publishes → Untied publishes →
      (publishEach reordered (.memory .empty)).2.fetchAll =
        (publishEach publishes (.memory .empty)).2.fetchAll ∧
      ∀ start, start = .missing ∨ start = .present .empty →
        (∀ answer ∈ (publishEach reordered (.folder start)).1, answer = .ok ()) →
        (publishEach reordered (.folder start)).2.fetchAll =
          (publishEach publishes (.memory .empty)).2.fetchAll) ∧
    ∀ (attempts : List (String × SharedState)) (store : MemoryStore),
      let switchedOff := (SharedStore.memory store).setAvailable false
      switchedOff.fetchAll = .error .unavailable ∧
      publishEach attempts switchedOff = (attempts.map fun _ => .error .unavailable, switchedOff) ∧
      (switchedOff.setAvailable true).fetchAll = .ok store.states := by
  refine ⟨⟨register publishes, fetchAll_memory publishes, ?_, Table.nodup_names _, ?_, ?_⟩,
    ?_, ?_, ?_⟩
  · exact fun start vacant accepted => fetchAll_folder vacant named legible accepted
  · intro provider
    rw [Table.mem_names_iff, get?_register_isSome]
  · intro provider state
    rw [Table.mem_entries_iff, get?_register]
  · rw [MemoryStore.empty, publishEach_memory]
    simp
  · intro reordered permuted untied
    have alike := register_perm untied permuted
    rw [fetchAll_memory, fetchAll_memory, ← alike]
    refine ⟨rfl, fun start vacant accepted => fetchAll_folder vacant ?_ ?_ accepted⟩
    · exact fun publish member => named publish (permuted.mem_iff.mp member)
    · exact fun publish member => legible publish (permuted.mem_iff.mp member)
  · intro attempts store
    exact ⟨rfl, publishEach_off attempts store.states, rfl⟩

/-- The state of a breaker that an instance closed at a time. -/
def closedAt (seconds : Int) (instanceNumber : Nat) : SharedState :=
  ⟨.closed, none, ⟨seconds, 0⟩, ⟨instanceNumber⟩⟩

set_option maxRecDepth 10000 in
/-- Of two states with the same update the second is left in the folder. -/
theorem last_writer_wins_tied :
    ∃ states,
      (publishEach [("p", closedAt 7 1), ("p", closedAt 7 2)] (.folder .missing)).2.fetchAll =
        .ok states ∧
      ("p", closedAt 7 2) ∈ states.entries := by
  obtain ⟨⟨states, -, fetched, -, -, latest⟩, -⟩ := last_writer_wins
    [("p", closedAt 7 1), ("p", closedAt 7 2)] (by decide) (by decide +kernel)
  refine ⟨states, fetched .missing (.inl rfl) (by decide +kernel),
    (latest _ _).mpr ⟨[("p", closedAt 7 1)], [], rfl, ?_, nofun⟩⟩
  intro old earlier
  obtain rfl : old = closedAt 7 1 := by simpa using earlier
  decide

end SharedStore

end ProviderRouting
