import ProviderRouting.Proofs.Files.Places
import ProviderRouting.Proofs.Sharing.Confinement

/-!
# Where entries are published

Whatever a provider is called, its entry is published directly in the folder of the store, in a file
of its own whose name tells which provider it is for.  Fetching finds the file among those that it
looks into, unless the provider's name is empty: then the file is called `.json`, which has no
extension, and what was published is never fetched.
-/

namespace ProviderRouting

open ProviderRouting.Path

namespace EntryName

variable {provider : String} {letter : Char}

/-- Whether a letter may stand in a stem. -/
def IsStemLetter (letter : Char) : Prop :=
  letter.isAlphanum ∨ letter = '_' ∨ letter = '-' ∨ letter = '%'

theorem isAlphanum_upperDigit : ∀ value < 16, (upperDigit value).isAlphanum := by decide

theorem isStemLetter_of_mem_escape {byte : UInt8} (member : letter ∈ escape byte) :
    IsStemLetter letter := by
  rw [escape] at member
  split at member
  · rename_i kept
    obtain rfl := List.mem_singleton.mp member
    have letters := (Bool.and_eq_true _ _).mp kept |>.2
    simp only [Bool.or_eq_true, decide_eq_true_eq] at letters
    rcases letters with (plain | underscore) | hyphen
    · exact .inl plain
    · exact .inr (.inl underscore)
    · exact .inr (.inr (.inl hyphen))
  · have small := byte.toNat_lt
    simp only [List.mem_cons, List.not_mem_nil, or_false] at member
    rcases member with percent | rfl | rfl
    · exact .inr (.inr (.inr percent))
    · exact .inl (isAlphanum_upperDigit _ (by omega))
    · exact .inl (isAlphanum_upperDigit _ (by omega))

theorem isStemLetter_of_mem_stem (member : letter ∈ (stem provider).toList) :
    IsStemLetter letter := by
  rw [stem, String.toList_ofList, List.mem_flatMap] at member
  obtain ⟨byte, -, written⟩ := member
  exact isStemLetter_of_mem_escape written

/-- The provider that a stem is for. -/
def decodeStem? (stem : String) : Option String :=
  String.fromUTF8? ⟨(unescape stem.toList).toArray⟩

theorem decodeStem?_stem (provider : String) : decodeStem? (stem provider) = some provider := by
  rw [decodeStem?, unescape_stem, toList_bytes]
  exact Folder.fromUTF8?_toUTF8 provider

/-- No provider's name leads out of the folder. -/
theorem isName_ofProvider (provider : String) : IsName (ofProvider provider) := by
  refine .of_length ?_ fun slash => ?_
  · simp only [ofProvider, String.length_append]
    have ending : ".json".length = 5 := by decide
    omega
  · rw [ofProvider, String.toList_append, List.mem_append] at slash
    rcases slash with inside | ending
    · exact absurd (isStemLetter_of_mem_stem inside) (by unfold IsStemLetter; decide)
    · exact absurd ending (by decide)

end EntryName

namespace InstanceId

variable {letter : Char}

theorem mem_hyphenate {lengths : List Nat} {letters : List Char}
    (member : letter ∈ hyphenate lengths letters) : letter = '-' ∨ letter ∈ letters := by
  fun_induction hyphenate lengths letters with
  | case1 letters => exact .inr member
  | case2 length letters => exact .inr member
  | case3 length lengths letters _ ih =>
      rcases List.mem_append.mp member with front | rest
      · exact .inr (List.mem_of_mem_take front)
      · rcases List.mem_cons.mp rest with hyphen | later
        · exact .inl hyphen
        · exact (ih later).imp_right List.mem_of_mem_drop

theorem digitChar_ne_slash : ∀ digit < 16, Nat.digitChar digit ≠ '/' := by decide

theorem slash_not_mem_toDigits (number : Nat) : '/' ∉ Nat.toDigits 16 number := by
  induction number using Nat.strong_induction_on with
  | _ number ih =>
      rw [Nat.toDigits_eq_if (by decide)]
      split
      · rename_i small
        exact fun slash => digitChar_ne_slash number small (List.mem_singleton.mp slash).symm
      · have last := digitChar_ne_slash (number % 16) (Nat.mod_lt _ (by decide))
        simpa [last.symm] using ih (number / 16) (by omega)

theorem slash_not_mem_write (id : InstanceId) : '/' ∉ id.write.toList := by
  rw [write, String.toList_ofList]
  intro slash
  rcases mem_hyphenate slash with hyphen | digit
  · exact absurd hyphen (by decide)
  · rcases List.mem_append.mp digit with zero | significant
    · exact absurd (List.eq_of_mem_replicate zero) (by decide)
    · exact slash_not_mem_toDigits id.number significant

end InstanceId

/-- The temporary name of an instance does not lead out of the folder. -/
theorem isName_temporaryName (id : InstanceId) : IsName (FolderStore.temporaryName id.write) := by
  refine .of_length ?_ fun slash => ?_
  · simp only [FolderStore.temporaryName, String.length_append]
    have ending : ".tmp".length = 4 := by decide
    omega
  · simp only [FolderStore.temporaryName, String.toList_append, List.mem_append] at slash
    rcases slash with (dot | inside) | ending
    · exact absurd dot (by decide)
    · exact id.slash_not_mem_write inside
    · exact absurd ending (by decide)

namespace Disk

variable {path temporary name : String} {entry : StoreEntry} {disk before between : Disk}
  {outcome : Except StoreFault Unit × Disk}

/-! ### Publishing -/

section Actions

variable (path name text : String)

theorem create_access : (access.folder path).create = changing (makeFolders path.length path) := by
  rfl

theorem read_access (disk : Disk) :
    (access.folder path).read name disk = (disk.read (join path name), disk) := rfl

theorem write_access : (access.folder path).write name text =
    changing fun disk => disk.write (join path name) text.toUTF8 := by
  rfl

theorem rename_access (source target : String) : (access.folder path).rename source target =
    changing fun disk => disk.rename (join path source) (join path target) := by
  rfl

theorem remove_access : (access.folder path).remove name =
    changing fun disk => disk.remove (join path name) := by
  rfl

end Actions

/-- What publishing an entry to the folder at a path may do to a disk, with what it says about
it. -/
structure Published (path temporary : String) (entry : StoreEntry) (before : Disk)
    (outcome : Except StoreFault Unit × Disk) : Prop where
  /-- Nothing changes but the entry's file and the temporary one, both directly in the folder at the
  path. -/
  changes : Changes path [temporary, EntryName.ofProvider entry.provider] before outcome.2
  /-- If it succeeds, the entry's file is there and holds the entry, or one that is later. -/
  filed : outcome.1 = .ok () → ∃ folder text, outcome.2.FolderAt path folder ∧
    outcome.2.item? (placeIn folder (EntryName.ofProvider entry.provider)) =
      some (.file text.toUTF8) ∧
    outcome.2.read (join path (EntryName.ofProvider entry.provider)) = .ok text ∧
    (text = entry.write ∨
      ∃ old, StoreEntry.read? text = some old ∧ old.state.givesWayTo entry.state = false)

namespace Published

theorem idle (disk : Disk) (fault : StoreFault) :
    Published path temporary entry disk (.error fault, disk) :=
  ⟨.refl disk, nofun⟩

/-- What was changed before may have been in the same places. -/
theorem of_changes
    (first : Changes path [temporary, EntryName.ofProvider entry.provider] before between)
    (published : Published path temporary entry between outcome) :
    Published path temporary entry before outcome :=
  ⟨first.trans published.changes, published.filed⟩

end Published

/-- Replacing an entry stays in the folder at the path. -/
theorem published_replaceEntry (aside : IsName temporary) (entry : StoreEntry) (disk : Disk) :
    Published path temporary entry disk
      (FolderStore.replaceEntry (access.folder path) temporary entry disk) := by
  have named := EntryName.isName_ofProvider entry.provider
  have member : temporary ∈ [temporary, EntryName.ofProvider entry.provider] := by simp
  have goal : EntryName.ofProvider entry.provider ∈
      [temporary, EntryName.ofProvider entry.provider] := by simp
  rw [FolderStore.replaceEntry_eq, write_access, rename_access, remove_access]
  rcases wrote : changing (fun disk => disk.write (join path temporary) entry.write.toUTF8) disk
    with ⟨fault | done, between⟩
  · obtain rfl := eq_of_changing_error wrote
    exact .idle between _
  have written := changing_eq_ok.mp wrote
  refine .of_changes (changes_write aside member written) ?_
  dsimp only
  rcases moved : changing (fun disk => disk.rename (join path temporary)
    (join path (EntryName.ofProvider entry.provider))) between with ⟨fault | done, after⟩
  · obtain rfl := eq_of_changing_error moved
    exact ⟨changes_changing fun _ => changes_remove aside member, nofun⟩
  have renamed := changing_eq_ok.mp moved
  have changes := changes_rename aside named member goal renamed
  refine ⟨changes, fun _ => ?_⟩
  -- What is moved is what was written, since both names are in the same folder.
  obtain ⟨folder, here, noFolder, rfl⟩ := write_join aside written
  obtain ⟨other, bytes, there, located, held, -, rfl⟩ := rename_join aside named renamed
  have placed := item?_put disk (placeIn_ne_empty folder temporary) (.file entry.write.toUTF8)
  have kept := here.stays (changes_write aside member written)
  obtain rfl := kept.unique there
  rw [placed, if_pos rfl] at held
  obtain rfl := FolderItem.file.inj (Option.some.inj held)
  refine ⟨folder, entry.write, kept.stays changes, ?_, ?_, .inl rfl⟩
  · rw [item?_put _ (placeIn_ne_empty _ _), if_pos rfl]
  · refine read_of_locate (locate_mono changes.workingFolder changes.folders located) ?_
    rw [item?_put _ (placeIn_ne_empty _ _), if_pos rfl]

/-- What the file of a name in the folder at a path holds, if there is one. -/
def entryAt (path name : String) (disk : Disk) : Except StoreFault (Option StoreEntry) :=
  (FolderStore.readEntry (access.folder path) name disk).1

theorem readEntry_access (path name : String) (disk : Disk) :
    FolderStore.readEntry (access.folder path) name disk = (disk.entryAt path name, disk) := by
  rw [entryAt, FolderStore.readEntry_eq, read_access]
  rcases disk.read (join path name) with fault | text
  · cases fault <;> rfl
  · cases parsed : StoreEntry.read? text <;> simp only [parsed]

/-- An entry that is found is what the text of its file writes. -/
theorem entryAt_eq_ok_some_iff {found : StoreEntry} :
    disk.entryAt path name = .ok (some found) ↔
      ∃ text, disk.read (join path name) = .ok text ∧ StoreEntry.read? text = some found := by
  rw [entryAt, FolderStore.readEntry_eq, read_access]
  rcases disk.read (join path name) with fault | text
  · cases fault <;> exact ⟨nofun, fun ⟨_, given, _⟩ => absurd given nofun⟩
  · cases parsed : StoreEntry.read? text <;> simp [parsed]

theorem makesFolders_create (path : String) (disk : Disk) :
    MakesFolders disk ((access.folder path).create disk).2 := by
  rw [create_access]
  rcases created : changing (makeFolders path.length path) disk with ⟨fault | done, after⟩
  · obtain rfl := eq_of_changing_error created
    exact .refl after
  · exact makesFolders_makeFolders (changing_eq_ok.mp created)

/-- Once the folder at the path has been made, publishing an entry stays in it. -/
theorem published_publish (aside : IsName temporary) (provider : String) (state : SharedState)
    (disk : Disk) :
    Published path temporary ⟨provider, state⟩ ((access.folder path).create disk).2
      (FolderStore.publish (access.folder path) temporary provider state disk) := by
  rw [FolderStore.publish_eq]
  rcases (access.folder path).create disk with ⟨fault | done, between⟩
  · exact .idle between _
  have replaced : Published path temporary _ between _ :=
    published_replaceEntry aside ⟨provider, state⟩ between
  simp only [readEntry_access]
  rcases known : between.entryAt path (EntryName.ofProvider provider) with fault | _ | old
  · exact .idle between _
  · exact replaced
  · by_cases gives : old.state.givesWayTo state = true
    · simp only [gives, if_true]
      exact replaced
    · simp only [gives]
      obtain ⟨text, given, parsed⟩ := entryAt_eq_ok_some_iff.mp known
      obtain ⟨folder, here, held⟩ := read_join (EntryName.isName_ofProvider provider) given
      refine ⟨.refl between, fun _ => ⟨folder, text, here, held, given, .inr ⟨old, parsed, ?_⟩⟩⟩
      simpa using gives

/-! ### Fetching -/

/-- The entry that fetching keeps of the file of a name: what can be read of it. -/
def kept? (path : String) (disk : Disk) (name : String) : Option StoreEntry :=
  (disk.entryAt path name).toOption.join

theorem foldlM_collect (path : String) (names : List String) (states : Table SharedState)
    (disk : Disk) :
    names.foldlM (FolderStore.collect (access.folder path)) states disk =
      ((names.filterMap (disk.kept? path)).foldl Folder.Conditions.place states, disk) := by
  rw [List.foldl_filterMap]
  refine FolderStore.foldlM_collect _ disk (fun states name => ?_) names states
  rw [FolderStore.collect_eq, readEntry_access, kept?]
  rcases disk.entryAt path name with fault | _ | entry <;> rfl

/-- Fetching keeps what can be read of the listed files that it looks into. -/
theorem fetchAll_of_list {names : List String} (listed : disk.list path = .ok names) :
    FolderStore.fetchAll (access.folder path) disk =
      (.ok (((names.filter EntryName.isEntry).filterMap (disk.kept? path)).foldl
        Folder.Conditions.place .empty), disk) := by
  have given : (access.folder path).list disk = (.ok names, disk) :=
    congrArg (Prod.mk · disk) listed
  rw [FolderStore.fetchAll_eq, given]
  simp only [foldlM_collect]

/-- A listed file that fetching looks into and can read is one that it keeps the entry of, or a
later listed one of the same provider. -/
theorem isSome_fetched {names : List String} (listed : disk.list path = .ok names)
    (looked : name ∈ names.filter EntryName.isEntry) {entry : StoreEntry}
    (known : disk.entryAt path name = .ok (some entry)) :
    ∃ states, FolderStore.fetchAll (access.folder path) disk = (.ok states, disk) ∧
      (states.get? entry.provider).isSome := by
  refine ⟨_, fetchAll_of_list listed, ?_⟩
  have kept : entry ∈ (names.filter EntryName.isEntry).filterMap (disk.kept? path) :=
    List.mem_filterMap.mpr ⟨name, looked, congrArg (·.toOption.join) known⟩
  rw [Folder.Conditions.get?_foldl_place, Option.isSome_map, List.find?_isSome]
  exact ⟨entry, List.mem_reverse.mpr kept, by simp⟩

end Disk

/-- The file of a provider is called by a stem of letters, digits, underscores, hyphens and percent
signs, with `.json` behind it.  The stem decodes to the provider, so no two providers share a file.
Publishing changes nothing outside of the folder of the store once that has been made, and if it
succeeds the file is directly in there.  Fetching looks into the file, and keeps what it finds in
it, exactly if the provider's name is not empty. -/
theorem placement_law (provider : String) :
    EntryName.ofProvider provider = EntryName.stem provider ++ ".json" ∧
    (∀ letter ∈ (EntryName.stem provider).toList, EntryName.IsStemLetter letter) ∧
    EntryName.decodeStem? (EntryName.stem provider) = some provider ∧
    (∀ other, EntryName.ofProvider other = EntryName.ofProvider provider → other = provider) ∧
    (EntryName.isEntry (EntryName.ofProvider provider) ↔ provider ≠ "") ∧
    ∀ (disk : Disk) (path : String) (id : InstanceId) (state : SharedState),
      let store := Disk.access.folder path
      let temporary := FolderStore.temporaryName id.write
      let outcome := FolderStore.publish store temporary provider state disk
      Disk.MakesFolders disk (store.create disk).2 ∧
      Disk.Published path temporary ⟨provider, state⟩ (store.create disk).2 outcome ∧
      (outcome.1 = .ok () → path ≠ "" → ∃ names, outcome.2.list path = .ok names ∧
        EntryName.ofProvider provider ∈ names ∧
        (EntryName.ofProvider provider ∈ names.filter EntryName.isEntry ↔ provider ≠ "") ∧
        (provider ≠ "" → state.Legible → ∃ entry states,
          outcome.2.entryAt path (EntryName.ofProvider provider) = .ok (some entry) ∧
          (entry = ⟨provider, state⟩ ∨ entry.state.givesWayTo state = false) ∧
          FolderStore.fetchAll store outcome.2 = (.ok states, outcome.2) ∧
          (states.get? entry.provider).isSome)) := by
  refine ⟨rfl, fun _ => EntryName.isStemLetter_of_mem_stem, EntryName.decodeStem?_stem provider,
    fun _ same => EntryName.ofProvider_injective same, EntryName.isEntry_ofProvider,
    fun disk path id state => ?_⟩
  intro store temporary outcome
  have published : Disk.Published path temporary ⟨provider, state⟩ (store.create disk).2 outcome :=
    Disk.published_publish (isName_temporaryName id) provider state disk
  refine ⟨Disk.makesFolders_create path disk, published, fun succeeds given => ?_⟩
  obtain ⟨folder, text, here, filed, read, written⟩ := published.filed succeeds
  obtain ⟨names, listed, member⟩ :=
    here.mem_list given (EntryName.isName_ofProvider provider).single filed
  have looked : EntryName.ofProvider provider ∈ names.filter EntryName.isEntry ↔ provider ≠ "" := by
    rw [List.mem_filter, EntryName.isEntry_ofProvider]
    exact and_iff_right member
  refine ⟨names, listed, member, looked, fun named legible => ?_⟩
  obtain ⟨entry, parsed, later⟩ : ∃ entry, StoreEntry.read? text = some entry ∧
      (entry = ⟨provider, state⟩ ∨ entry.state.givesWayTo state = false) := by
    rcases written with rfl | ⟨old, parsed, later⟩
    · exact ⟨_, StoreEntry.read?_write ⟨provider, state⟩ legible, .inl rfl⟩
    · exact ⟨old, parsed, .inr later⟩
  have known := Disk.entryAt_eq_ok_some_iff.mpr ⟨text, read, parsed⟩
  obtain ⟨states, fetched, kept⟩ := Disk.isSome_fetched listed (looked.mpr named) known
  exact ⟨entry, states, known, later, fetched, kept⟩

/-- A provider that is called like a path to another folder has its file in the folder of the store,
and is fetched from there. -/
theorem placement_law_upward :
    let disk : Disk := ⟨.ofList [("/work", .folder), ("/etc", .folder)], "/work"⟩
    let store := Disk.access.folder "state/breakers"
    let provider := "../../../etc/passwd"
    let state : SharedState := ⟨.opened, some ⟨60, 0⟩, ⟨60, 0⟩, ⟨1⟩⟩
    let temporary := FolderStore.temporaryName state.instanceId.write
    let outcome := FolderStore.publish store temporary provider state disk
    outcome.1 = .ok () ∧ state.Legible ∧
    Disk.Published "state/breakers" temporary ⟨provider, state⟩ (store.create disk).2 outcome ∧
    EntryName.ofProvider provider = "%2E%2E%2F%2E%2E%2F%2E%2E%2Fetc%2Fpasswd.json" ∧
    ∃ entry states,
      outcome.2.entryAt "state/breakers" (EntryName.ofProvider provider) = .ok (some entry) ∧
      FolderStore.fetchAll store outcome.2 = (.ok states, outcome.2) ∧
      (states.get? entry.provider).isSome := by
  intro disk store provider state temporary outcome
  have succeeds : outcome.1 = .ok () := by decide +kernel
  have legible : state.Legible := by decide +kernel
  have named : EntryName.ofProvider provider = "%2E%2E%2F%2E%2E%2F%2E%2E%2Fetc%2Fpasswd.json" := by
    decide +kernel
  obtain ⟨-, -, -, -, -, placed⟩ := placement_law provider
  obtain ⟨-, published, reached⟩ := placed disk "state/breakers" state.instanceId state
  obtain ⟨-, -, -, -, read⟩ := reached succeeds (by decide)
  obtain ⟨entry, states, known, -, fetched, kept⟩ := read (by decide) legible
  exact ⟨succeeds, legible, published, named, entry, states, known, fetched, kept⟩

/-- The state of a provider without a name is accepted by a store in a folder, but only one in
memory gives it back. -/
theorem nameless_entry_unfetched :
    let state : SharedState := ⟨.opened, none, ⟨1714557600, 0⟩, ⟨1⟩⟩
    let published := SharedStore.publish "" state (.folder .missing)
    published.1 = .ok () ∧
    EntryName.ofProvider "" = ".json" ∧
    EntryName.isEntry ".json" = false ∧
    (published.2.fetchAll.map (·.get? "")) = .ok none ∧
    ((SharedStore.publish "" state (.memory .empty)).2.fetchAll.map (·.get? "")) =
      .ok (some state) := by
  decide +kernel

end ProviderRouting
