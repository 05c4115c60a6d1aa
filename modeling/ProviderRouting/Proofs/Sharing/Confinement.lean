import ProviderRouting.Proofs.Sharing.EntryFiles
import ProviderRouting.Proofs.Time.Timestamps

/-!
# A publish is confined to its entry

Anything may be in the folder of a store: files that are no entries, files that are no texts, files
of other names, folders, and what failed writes left behind.  Every step of a publish may fail,
too, and so may the removal of its temporary file.  Still a publish changes no file but that of its
own provider, which it replaces as a whole or not at all, and what cannot be read in fetching costs
nobody else an entry.
-/

namespace ProviderRouting

namespace Folder

/-- What has a name in a folder. -/
def item? (name : String) : Folder → Option FolderItem
  | present items => items.get? name
  | _ => none

/-- The conditions under which a folder is used: in which order it lists its items, and which
actions fail although the contents of the folder let them succeed. -/
structure Conditions where
  /-- How the names of the items are ordered in a listing. -/
  order : List String → List String
  /-- A listing has every name as often as there are items of that name. -/
  order_perm : ∀ names, (order names).Perm names
  /-- Why the folder cannot be made. -/
  createFault : Option FileFault
  /-- Why the file of a name cannot be read. -/
  readFault : String → Option FileFault
  /-- Why a file cannot be written, and the bytes that were written nevertheless. -/
  writeFault : Option (FileFault × Option ByteArray)
  /-- Why a file cannot be moved. -/
  renameFault : Option FileFault
  /-- Why a file cannot be removed. -/
  removeFault : Option FileFault

namespace Conditions

/-- Nothing fails, and items are listed in the order of their names. -/
def ideal : Conditions := ⟨id, fun names => .refl names, none, fun _ => none, none, none, none⟩

/-- Make a folder if it is not there. -/
def create (conditions : Conditions) (folder : Folder) : Except FileFault Unit × Folder :=
  match conditions.createFault with
  | none => folder.create
  | some fault => (.error fault, folder)

/-- The text of a file. -/
def read (conditions : Conditions) (name : String) (folder : Folder) : Except FileFault String :=
  match conditions.readFault name with
  | none => folder.read name
  | some fault => .error fault

/-- Write a file. -/
def write (conditions : Conditions) (name : String) (bytes : ByteArray) (folder : Folder) :
    Except FileFault Unit × Folder :=
  match conditions.writeFault with
  | none => folder.write name bytes
  | some (fault, none) => (.error fault, folder)
  | some (fault, some written) => (.error fault, (folder.write name written).2)

/-- Move a file to another name, in place of a file that has it. -/
def rename (conditions : Conditions) (source target : String) (folder : Folder) :
    Except FileFault Unit × Folder :=
  match conditions.renameFault with
  | none => folder.rename source target
  | some fault => (.error fault, folder)

/-- Remove a file. -/
def remove (conditions : Conditions) (name : String) (folder : Folder) :
    Except FileFault Unit × Folder :=
  match conditions.removeFault with
  | none => folder.remove name
  | some fault => (.error fault, folder)

/-- The actions on a folder under some conditions. -/
def access (conditions : Conditions) : FolderAccess (StateM Folder) where
  create folder := conditions.create folder
  list folder := (folder.list.map conditions.order, folder)
  read name folder := (conditions.read name folder, folder)
  write name text folder := conditions.write name text.toUTF8 folder
  rename source target folder := conditions.rename source target folder
  remove name folder := conditions.remove name folder

/-- Where nothing fails, a folder is used as a folder is. -/
theorem access_ideal : ideal.access = Folder.access := by
  have listed : ∀ folder : Folder, folder.list.map ideal.order = folder.list := by
    intro folder
    cases folder <;> rfl
  simp only [access, listed]
  rfl

end Conditions

/-! ### What one action does -/

section Actions

variable {conditions : Conditions} {name other source target : String} {bytes : ByteArray}
  {folder after : Folder} {fault : FileFault}

theorem item?_create (folder : Folder) (name : String) :
    folder.create.2.item? name = folder.item? name := by
  cases folder <;> rfl

/-- A file is written, or the folder stays. -/
theorem write_cases (name : String) (bytes : ByteArray) (folder : Folder) :
    (∃ fault, folder.write name bytes = (.error fault, folder)) ∨
      ∃ items, folder = present items ∧ nameFault name = none ∧
        folder.write name bytes = (.ok (), present (items.insert name (.file bytes))) := by
  cases folder with
  | missing => exact .inl ⟨_, rfl⟩
  | blocked => exact .inl ⟨_, rfl⟩
  | present items =>
    rw [write, itemsFor_present]
    cases unusable : nameFault name with
    | some fault => exact .inl ⟨fault, rfl⟩
    | none =>
      rcases filed : items.get? name with _ | old | _
      · exact .inr ⟨items, rfl, rfl, by simp only [filed]⟩
      · exact .inr ⟨items, rfl, rfl, by simp only [filed]⟩
      · exact .inl ⟨.isFolder, by simp only [filed]⟩

theorem item?_write_of_ne (different : other ≠ name) :
    (folder.write name bytes).2.item? other = folder.item? other := by
  obtain ⟨fault, failed⟩ | ⟨items, rfl, -, written⟩ := write_cases name bytes folder
  · rw [failed]
  · rw [written]
    simp [item?, different.symm]

/-- A file is moved, or the folder stays. -/
theorem rename_cases (source target : String) (folder : Folder) :
    (∃ fault, folder.rename source target = (.error fault, folder)) ∨
      ∃ items item, folder = present items ∧ items.get? source = some item ∧
        folder.rename source target =
          (.ok (), present ((items.erase source).insert target item)) := by
  cases folder with
  | missing => exact .inl ⟨_, rfl⟩
  | blocked => exact .inl ⟨_, rfl⟩
  | present items =>
    rw [rename, itemsFor_present]
    cases nameFault source with
    | some fault => exact .inl ⟨fault, rfl⟩
    | none =>
      cases nameFault target with
      | some fault => exact .inl ⟨fault, rfl⟩
      | none =>
        rcases moved : items.get? source with _ | bytes | _
        · exact .inl ⟨.missing, by simp only [moved]⟩
        · rcases replaced : items.get? target with _ | old | _
          · exact .inr ⟨items, _, rfl, moved, by simp only [moved, replaced]⟩
          · exact .inr ⟨items, _, rfl, moved, by simp only [moved, replaced]⟩
          · exact .inl ⟨.isFolder, by simp only [moved, replaced]⟩
        · rcases replaced : items.get? target with _ | old | _
          · exact .inr ⟨items, _, rfl, moved, by simp only [moved, replaced]⟩
          · exact .inl ⟨.notFolder, by simp only [moved, replaced]⟩
          · exact .inr ⟨items, _, rfl, moved, by simp only [moved, replaced]⟩

namespace Conditions

/-- A file is written, or at most something under its name is not as before. -/
theorem write_cases (conditions : Conditions) (name : String) (bytes : ByteArray)
    (folder : Folder) :
    (∃ fault after, conditions.write name bytes folder = (.error fault, after) ∧
        (∀ other, other ≠ name → after.item? other = folder.item? other) ∧
        (conditions.writeFault = none → after = folder)) ∨
      conditions.writeFault = none ∧ ∃ items, folder = present items ∧ nameFault name = none ∧
        conditions.write name bytes folder =
          (.ok (), present (items.insert name (.file bytes))) := by
  rw [write]
  rcases failing : conditions.writeFault with _ | ⟨fault, _ | written⟩
  · obtain ⟨fault, failed⟩ | ⟨items, here, usable, written⟩ := Folder.write_cases name bytes folder
    · exact .inl ⟨fault, folder, failed, fun _ _ => rfl, fun _ => rfl⟩
    · exact .inr ⟨rfl, items, here, usable, written⟩
  · exact .inl ⟨fault, folder, rfl, fun _ _ => rfl, fun _ => rfl⟩
  · exact .inl ⟨fault, _, rfl, fun _ => item?_write_of_ne, nofun⟩

/-- A file is moved, or the folder stays. -/
theorem rename_cases (conditions : Conditions) (source target : String) (folder : Folder) :
    (∃ fault, conditions.rename source target folder = (.error fault, folder)) ∨
      ∃ items item, folder = present items ∧ items.get? source = some item ∧
        conditions.rename source target folder =
          (.ok (), present ((items.erase source).insert target item)) := by
  rw [rename]
  cases conditions.renameFault with
  | none => exact Folder.rename_cases source target folder
  | some fault => exact .inl ⟨fault, rfl⟩

/-- The entry in the file of a name, if there is such a file. -/
def entry (conditions : Conditions) (name : String) (folder : Folder) :
    Except StoreFault (Option StoreEntry) :=
  match conditions.readFault name with
  | none => folder.entry name
  | some .missing => .ok none
  | some fault => .error (.files fault)

theorem readEntry_access (conditions : Conditions) (name : String) (folder : Folder) :
    FolderStore.readEntry conditions.access name folder =
      (conditions.entry name folder, folder) := by
  have given : conditions.access.read name folder = (conditions.read name folder, folder) := rfl
  rw [FolderStore.readEntry_eq, given, read, entry]
  cases conditions.readFault name with
  | none =>
    rw [← Folder.readEntry_access, FolderStore.readEntry_eq]
    rfl
  | some fault => cases fault <;> rfl

end Conditions

end Actions

/-! ### Publishing -/

/-- What a publish may do to a folder, with what it says about it. -/
structure Confined (conditions : Conditions) (temporary : String) (entry : StoreEntry)
    (before : Folder) (outcome : Except StoreFault Unit × Folder) : Prop where
  /-- Everything stays that has neither the name of the entry nor the temporary one. -/
  others : ∀ name, name ≠ EntryName.ofProvider entry.provider → name ≠ temporary →
    outcome.2.item? name = before.item? name
  /-- A publish that fails leaves the entry as it was. -/
  failed : ∀ fault, outcome.1 = .error fault →
    outcome.2.item? (EntryName.ofProvider entry.provider) =
      before.item? (EntryName.ofProvider entry.provider)
  /-- A publish that succeeds has written the whole entry, unless there was a later one. -/
  done : outcome.1 = .ok () →
    outcome.2.item? (EntryName.ofProvider entry.provider) = some (.file entry.write.toUTF8) ∨
      outcome.2.item? (EntryName.ofProvider entry.provider) =
          before.item? (EntryName.ofProvider entry.provider) ∧
        ∃ old, before.entry (EntryName.ofProvider entry.provider) = .ok (some old) ∧
          entry.state.updatedAt < old.state.updatedAt
  /-- Nothing is left under the temporary name if the publish succeeds, or if what fails is not the
  write, such as the move into place, and files can be removed. -/
  clean : outcome.1 = .ok () ∨ conditions.writeFault = none ∧ conditions.removeFault = none →
    outcome.2.item? temporary = none
  /-- If files cannot be removed, the whole entry may be left there. -/
  left : conditions.writeFault = none → outcome.2.item? temporary = none ∨
    outcome.2.item? temporary = some (.file entry.write.toUTF8)

namespace Confined

variable {conditions : Conditions} {temporary : String} {entry : StoreEntry} {before : Folder}
  {outcome : Except StoreFault Unit × Folder}

/-- A publish may fail and leave everything as it was. -/
theorem idle (vacant : before.item? temporary = none) (fault : StoreFault) :
    Confined conditions temporary entry before (.error fault, before) where
  others _ _ _ := rfl
  failed _ _ := rfl
  done := nofun
  clean _ := vacant
  left _ := .inl vacant

/-- Making the folder first changes nothing about what is in it. -/
theorem of_same {between : Folder} (same : ∀ name, between.item? name = before.item? name)
    (read : ∀ name entry, between.entry name = .ok (some entry) →
      before.entry name = .ok (some entry))
    (confined : Confined conditions temporary entry between outcome) :
    Confined conditions temporary entry before outcome where
  others name foreign untouched := (confined.others name foreign untouched).trans (same name)
  failed fault fails := (confined.failed fault fails).trans (same _)
  done succeeds := by
    obtain written | ⟨kept, old, found, later⟩ := confined.done succeeds
    · exact .inl written
    · exact .inr ⟨kept.trans (same _), old, read _ _ found, later⟩
  clean := confined.clean
  left := confined.left

end Confined

theorem temporaryName_ne_ofProvider (token provider : String) :
    FolderStore.temporaryName token ≠ EntryName.ofProvider provider := by
  intro same
  have letters := congrArg (fun name => name.toList.getLast?) same
  simp [FolderStore.temporaryName, EntryName.ofProvider, List.getLast?_cons] at letters

/-- The removal of a file that was written leaves the other items as they were, and the file only
where files cannot be removed. -/
theorem Conditions.item?_remove_insert (conditions : Conditions) {temporary : String}
    (items : Table FolderItem) (usable : nameFault temporary = none) (bytes : ByteArray) :
    let after := (conditions.remove temporary (present (items.insert temporary (.file bytes)))).2
    (∀ name, name ≠ temporary → after.item? name = items.get? name) ∧
      after.item? temporary = if conditions.removeFault = none then none else some (.file bytes) := by
  intro after
  cases unremovable : conditions.removeFault with
  | some fault =>
    have kept : after = present (items.insert temporary (.file bytes)) := by
      simp only [after, Conditions.remove, unremovable]
    rw [kept]
    exact ⟨fun name aside => by simp [item?, aside.symm], by simp [item?]⟩
  | none =>
    have removed : after = present ((items.insert temporary (.file bytes)).erase temporary) := by
      simp only [after, Conditions.remove, unremovable, Folder.remove, itemsFor_present, usable,
        Table.get?_insert, if_true]
    rw [removed]
    exact ⟨fun name aside => by simp [item?, Table.get?_erase, aside, aside.symm],
      by simp [item?, Table.get?_erase]⟩

/-- Replacing an entry is confined to it. -/
theorem confined_replaceEntry (conditions : Conditions) {temporary : String} {entry : StoreEntry}
    {before : Folder} (vacant : before.item? temporary = none)
    (apart : temporary ≠ EntryName.ofProvider entry.provider) :
    Confined conditions temporary entry before
      (FolderStore.replaceEntry conditions.access temporary entry before) := by
  rw [FolderStore.replaceEntry_eq]
  simp only [Conditions.access]
  obtain ⟨fault, after, failed, spared, unharmed⟩ | ⟨sound, items, rfl, usable, written⟩ :=
    conditions.write_cases temporary entry.write.toUTF8 before
  · simp only [failed]
    exact {
      others := fun name _ untouched => spared name untouched
      failed := fun _ _ => spared _ apart.symm
      done := nofun
      clean := fun kept => by
        obtain succeeds | ⟨sound, -⟩ := kept
        · exact absurd succeeds nofun
        · rw [unharmed sound, vacant]
      left := fun sound => .inl (by rw [unharmed sound, vacant]) }
  · simp only [written]
    obtain ⟨fault, failed⟩ | ⟨inside, item, same, moved, renamed⟩ :=
      conditions.rename_cases temporary (EntryName.ofProvider entry.provider)
        (present (items.insert temporary (.file entry.write.toUTF8)))
    · obtain ⟨spared, leftover⟩ :=
        conditions.item?_remove_insert items usable entry.write.toUTF8
      simp only [failed]
      exact {
        others := fun name _ untouched => spared name untouched
        failed := fun _ _ => spared _ apart.symm
        done := nofun
        clean := fun kept => by
          obtain succeeds | ⟨-, removable⟩ := kept
          · exact absurd succeeds nofun
          · rw [leftover, if_pos removable]
        left := fun _ => by
          rw [leftover]
          exact (ite_eq_or_eq _ _ _) }
    · obtain rfl : items.insert temporary (.file entry.write.toUTF8) = inside :=
        Folder.present.inj same
      obtain rfl : .file entry.write.toUTF8 = item := by simpa using moved
      simp only [renamed]
      exact {
        others := fun name foreign untouched => by
          simp [item?, Table.get?_erase, foreign.symm, untouched, untouched.symm]
        failed := nofun
        done := fun _ => .inl (by simp [item?])
        clean := fun _ => by simp [item?, Table.get?_erase, apart.symm]
        left := fun _ => .inl (by simp [item?, Table.get?_erase, apart.symm]) }

/-- Making a folder gives it no entries. -/
theorem entry_create {folder : Folder} {name : String} {entry : StoreEntry}
    (found : folder.create.2.entry name = .ok (some entry)) :
    folder.entry name = .ok (some entry) := by
  cases folder with
  | missing =>
    have filled : (present .empty).entry name = .ok (some entry) := found
    obtain none | ⟨fault, failed⟩ := entry_of_vacant (Table.get?_empty name)
    · rw [none] at filled
      cases filled
    · rw [failed] at filled
      cases filled
  | blocked => exact found
  | present items => exact found

theorem Conditions.create_cases (conditions : Conditions) (folder : Folder) :
    (∃ fault, conditions.create folder = (.error fault, folder)) ∨
      conditions.create folder = (.ok (), folder.create.2) := by
  rw [create]
  cases conditions.createFault with
  | some fault => exact .inl ⟨fault, rfl⟩
  | none =>
    cases folder with
    | missing => exact .inr rfl
    | blocked => exact .inl ⟨_, rfl⟩
    | present items => exact .inr rfl

/-- What is read of an entry is in its file. -/
theorem Conditions.entry_of_found {conditions : Conditions} {name : String} {folder : Folder}
    {entry : StoreEntry} (found : conditions.entry name folder = .ok (some entry)) :
    folder.entry name = .ok (some entry) := by
  rw [Conditions.entry] at found
  split at found
  · exact found
  · cases found
  · cases found

/-- A publish is confined to the entry of its provider. -/
theorem confined_publish (conditions : Conditions) (token provider : String) (state : SharedState)
    {folder : Folder} (fresh : folder.item? (FolderStore.temporaryName token) = none) :
    Confined conditions (FolderStore.temporaryName token) ⟨provider, state⟩ folder
      (FolderStore.publish conditions.access (FolderStore.temporaryName token) provider state
        folder) := by
  have asked : conditions.access.create folder = conditions.create folder := rfl
  rw [FolderStore.publish_eq, asked]
  obtain ⟨fault, failed⟩ | created := conditions.create_cases folder
  · simp only [failed]
    exact .idle fresh _
  · simp only [created, Conditions.readEntry_access]
    refine .of_same (item?_create folder) (fun _ _ => entry_create) ?_
    have vacant := (item?_create folder _).trans fresh
    have apart := temporaryName_ne_ofProvider token provider
    have replaced : Confined conditions _ ⟨provider, state⟩ _ _ :=
      confined_replaceEntry conditions vacant apart
    rcases found : conditions.entry (EntryName.ofProvider provider) folder.create.2 with
      fault | _ | old
    · exact .idle vacant _
    · exact replaced
    · by_cases gives : old.state.givesWayTo state = true
      · simp only [gives, if_true]
        exact replaced
      · simp only [gives]
        exact {
          others := fun _ _ _ => rfl
          failed := nofun
          done := fun _ => .inr ⟨rfl, old, Conditions.entry_of_found found,
            lt_of_not_ge (mt SharedState.givesWayTo_iff.mpr gives)⟩
          clean := fun _ => vacant
          left := fun _ => .inl vacant }

/-! ### Fetching -/

namespace Conditions

/-- The entry that fetching keeps of a listed item: what the bytes of an entry's file decode to. -/
def kept? (conditions : Conditions) (items : Table FolderItem) (name : String) :
    Option StoreEntry :=
  if EntryName.isEntry name ∧ nameFault name = none ∧ conditions.readFault name = none then
    match items.get? name with
    | some (.file bytes) => (String.fromUTF8? bytes).bind StoreEntry.read?
    | _ => none
  else none

/-- What is read of the file of an entry is kept, and faults are passed over. -/
theorem kept?_of_isEntry {name : String} (named : EntryName.isEntry name) (conditions : Conditions)
    (items : Table FolderItem) :
    conditions.kept? items name =
      match conditions.entry name (present items) with
      | .ok entry => entry
      | .error _ => none := by
  rw [kept?, Conditions.entry]
  cases conditions.readFault name with
  | some fault => cases fault <;> simp
  | none =>
    rw [Folder.entry, Folder.read, itemsFor_present]
    cases nameFault name with
    | some fault => cases fault <;> simp
    | none =>
      simp only [named, and_self, if_true]
      rcases items.get? name with _ | bytes | _
      · rfl
      · simp only
        cases String.fromUTF8? bytes with
        | none => rfl
        | some text => cases parsed : StoreEntry.read? text <;> simp [parsed]
      · rfl

/-- Add an entry to the states. -/
def place (states : Table SharedState) (entry : StoreEntry) : Table SharedState :=
  states.insert entry.provider entry.state

theorem collect_access (conditions : Conditions) (states : Table SharedState) {name : String}
    (named : EntryName.isEntry name) (items : Table FolderItem) :
    FolderStore.collect conditions.access states name (present items) =
      ((conditions.kept? items name).elim states (place states), present items) := by
  rw [kept?_of_isEntry named]
  rw [FolderStore.collect_eq, readEntry_access]
  rcases conditions.entry name (present items) with fault | _ | entry <;> rfl

theorem foldlM_collect (conditions : Conditions) (names : List String) (states : Table SharedState)
    (items : Table FolderItem) :
    (names.filter EntryName.isEntry).foldlM (FolderStore.collect conditions.access) states
        (present items) =
      ((names.filterMap (conditions.kept? items)).foldl place states, present items) := by
  induction names generalizing states with
  | nil => rfl
  | cons name names ih =>
    by_cases named : EntryName.isEntry name = true
    · rw [List.filter_cons_of_pos named, List.foldlM_cons]
      simp only [bind, StateT.bind, collect_access conditions states named, List.filterMap_cons]
      cases conditions.kept? items name with
      | none => exact ih states
      | some entry => exact ih (place states entry)
    · have passed : conditions.kept? items name = none := if_neg fun kept => named kept.1
      rw [List.filter_cons_of_neg named, ih, List.filterMap_cons, passed]

/-- The last entry of a provider is its state. -/
theorem get?_foldl_place (entries : List StoreEntry) (provider : String) :
    (entries.foldl place .empty).get? provider =
      (entries.reverse.find? (·.provider = provider)).map (·.state) := by
  induction entries using List.reverseRecOn with
  | nil => rfl
  | append_singleton entries entry ih =>
    rw [List.foldl_append, List.reverse_append, List.reverse_singleton, List.singleton_append,
      List.find?_cons, List.foldl_cons, List.foldl_nil, place, Table.get?_insert, ih]
    by_cases own : entry.provider = provider <;> simp [own]

/-- Fetching from a folder that is there never fails, and leaves the folder as it is. -/
theorem fetchAll_access (conditions : Conditions) (items : Table FolderItem) :
    FolderStore.fetchAll conditions.access (present items) =
      (.ok (((conditions.order items.names).filterMap (conditions.kept? items)).foldl place .empty),
        present items) := by
  have listed : conditions.access.list (present items) =
      (.ok (conditions.order items.names), present items) := rfl
  rw [FolderStore.fetchAll_eq, listed]
  simp only [foldlM_collect]

end Conditions

/-- Whatever is in a folder and whatever fails, a publish is confined to the entry of its provider,
and fetching succeeds: it keeps exactly the entries in files that can be read and decoded, of
several entries of one provider the last one listed.  That includes folders where nothing fails. -/
theorem confinement_law (conditions : Conditions) :
    (∀ folder token provider state, folder.item? (FolderStore.temporaryName token) = none →
      Confined conditions (FolderStore.temporaryName token) ⟨provider, state⟩ folder
        (FolderStore.publish conditions.access (FolderStore.temporaryName token) provider state
          folder)) ∧
    (∀ items, ∃ states,
      FolderStore.fetchAll conditions.access (.present items) = (.ok states, .present items) ∧
      ∀ provider, states.get? provider =
        (((conditions.order items.names).filterMap (conditions.kept? items)).reverse.find?
          (·.provider = provider)).map (·.state)) ∧
    Conditions.ideal.access = Folder.access :=
  ⟨fun _ token provider state fresh => confined_publish conditions token provider state fresh,
    fun items => ⟨_, conditions.fetchAll_access items, Conditions.get?_foldl_place _⟩,
    Conditions.access_ideal⟩

/-- A publish into a folder with other things in it, where the file cannot be moved into place.  If
it cannot be removed either, it stays there, and nothing else changes. -/
theorem confinement_law_failing_move :
    let conditions : Conditions := { Conditions.ideal with renameFault := some .isFolder }
    let stuck : Conditions := { conditions with removeFault := some .isFolder }
    let folder := present (.ofList [("broken.json", .file "not json".toUTF8),
      ("notes.txt", .file ⟨#[255]⟩), ("inside", .folder)])
    let temporary := FolderStore.temporaryName "token"
    let state : SharedState := ⟨.opened, some ⟨60, 0⟩, ⟨60, 0⟩, ⟨1⟩⟩
    let outcome := FolderStore.publish conditions.access temporary "provider" state folder
    let unremoved := FolderStore.publish stuck.access temporary "provider" state folder
    folder.item? temporary = none ∧
      Confined conditions temporary ⟨"provider", state⟩ folder outcome ∧
      outcome.2.item? temporary = none ∧
      Confined stuck temporary ⟨"provider", state⟩ folder unremoved ∧
      (unremoved.2.item? temporary).isSome := by
  intro conditions stuck folder temporary state outcome unremoved
  have fresh : folder.item? temporary = none := by decide +kernel
  have confined := (confinement_law conditions).1 folder "token" "provider" state fresh
  have spared := (confinement_law stuck).1 folder "token" "provider" state fresh
  exact ⟨fresh, confined, confined.clean (.inr ⟨rfl, rfl⟩), spared, by decide +kernel⟩

end Folder

end ProviderRouting
