import Mathlib.Data.List.Nodup
import ProviderRouting.Proofs.Json.Records
import ProviderRouting.Proofs.Sharing.EntryNames
import ProviderRouting.Proofs.Tables
import ProviderRouting.Sharing.Store

/-!
# Entries in files

A folder that only a store writes holds one file for every provider with a state, and that file is
read as the entry that was written.
-/

namespace ProviderRouting

open Document

/-- Whether the document of a state is decoded as that state. -/
def SharedState.Legible (state : SharedState) : Prop := decode .json state.encode = some state

instance (state : SharedState) : Decidable state.Legible :=
  inferInstanceAs (Decidable (SharedState.decode .json state.encode = some state))

namespace StoreEntry

/-- The two notations of JSON differ only in what may stand beside the name of an alternative, and
the fields of a state are texts or missing. -/
theorem ofMembers_sharedJson (state : SharedState) :
    SharedState.ofMembers .sharedJson ⟨state.fields, false⟩ =
      SharedState.ofMembers .json ⟨state.fields, false⟩ := by
  obtain ⟨phase, opened, updated, id⟩ := state
  cases opened <;> rfl

/-- The document of an entry. -/
def document (entry : StoreEntry) : Document :=
  .record (("provider", .text entry.provider) :: entry.state.fields)

theorem document_sound (entry : StoreEntry) :
    entry.document.usable ∧ Conventions.json.allowsNesting entry.document.depth := by
  obtain ⟨provider, phase, opened, updated, id⟩ := entry
  cases opened <;> exact ⟨rfl, rfl⟩

theorem document_plain (entry : StoreEntry) :
    ∀ field ∈ ("provider", .text entry.provider) :: entry.state.fields,
      Json.IsPlain field.2 := by
  obtain ⟨provider, phase, opened, updated, id⟩ := entry
  cases opened <;> simp [SharedState.fields, ofOption, Json.IsPlain.text, Json.IsPlain.null]

/-- An entry is decoded as it was if its state is. -/
theorem decode_document (entry : StoreEntry) (legible : entry.state.Legible) :
    decode entry.document = some entry := by
  obtain ⟨provider, state⟩ := entry
  have own : recordMembers ["provider"] (("provider", .text provider) :: state.fields) =
      some ⟨[("provider", .text provider)], false⟩ := by
    simp [recordMembers, SharedState.fields, hasRepeat]
  have shared : recordMembers SharedState.fieldNames
      (("provider", .text provider) :: state.fields) = some ⟨state.fields, false⟩ := by
    simp [recordMembers, SharedState.fields, SharedState.fieldNames, hasRepeat]
  have alone : recordMembers SharedState.fieldNames state.fields = some ⟨state.fields, false⟩ := by
    simp [recordMembers, SharedState.fields, SharedState.fieldNames, hasRepeat]
  have decoded : SharedState.ofMembers .json ⟨state.fields, false⟩ = some state := by
    simpa [SharedState.Legible, SharedState.decode, SharedState.encode, members, alone]
      using legible
  have sound := document_sound ⟨provider, state⟩
  rw [document] at sound ⊢
  rw [decode, own, shared]
  simp [Members.required, Members.find?, toText, sound, ofMembers_sharedJson, decoded]

/-- An entry is read as it was written if its state survives its document. -/
theorem read?_write (entry : StoreEntry) (legible : entry.state.Legible) :
    read? (write entry) = some entry := by
  rw [read?, write, Json.read?_writePretty (List.cons_ne_nil _ _) entry.document_plain]
  exact entry.decode_document legible

end StoreEntry

namespace FolderStore

variable {σ : Type} (access : FolderAccess (StateM σ)) (store : σ)

/-! What a store does with a folder that is kept as a state, one action after the other. -/

theorem readEntry_eq (name : String) :
    readEntry access name store =
      match access.read name store with
      | (.ok content, after) =>
        match StoreEntry.read? content with
        | some entry => (.ok (some entry), after)
        | none => (.error .corrupt, after)
      | (.error .missing, after) => (.ok none, after)
      | (.error fault, after) => (.error (.files fault), after) := by
  simp only [readEntry, bind, StateT.bind, pure]
  rcases access.read name store with ⟨fault | content, after⟩
  · cases fault <;> rfl
  · cases parsed : StoreEntry.read? content <;> simp only [parsed] <;> rfl

theorem replaceEntry_eq (temporary : String) (entry : StoreEntry) :
    replaceEntry access temporary entry store =
      match access.write temporary entry.write store with
      | (.error fault, after) => (.error (.files fault), after)
      | (.ok (), after) =>
        match access.rename temporary (EntryName.ofProvider entry.provider) after with
        | (.error fault, last) => (.error (.files fault), (access.remove temporary last).2)
        | (.ok (), last) => (.ok (), last) := by
  simp only [replaceEntry, bind, StateT.bind, pure]
  rcases access.write temporary entry.write store with ⟨fault | done, after⟩
  · rfl
  · rcases renamed : access.rename temporary (EntryName.ofProvider entry.provider) after with
      ⟨fault | done, last⟩ <;>
      simp only [StateT.bind, bind, renamed] <;> rfl

theorem publish_eq (temporary provider : String) (state : SharedState) :
    publish access temporary provider state store =
      match access.create store with
      | (.error fault, after) => (.error (.files fault), after)
      | (.ok (), after) =>
        match readEntry access (EntryName.ofProvider provider) after with
        | (.error fault, last) => (.error fault, last)
        | (.ok (some old), last) =>
          if old.state.givesWayTo state then
            replaceEntry access temporary ⟨provider, state⟩ last
          else (.ok (), last)
        | (.ok none, last) => replaceEntry access temporary ⟨provider, state⟩ last := by
  simp only [publish, bind, StateT.bind, pure]
  rcases access.create store with ⟨fault | done, after⟩
  · rfl
  · simp only [StateT.bind, bind]
    rcases readEntry access (EntryName.ofProvider provider) after with ⟨fault | _ | old, last⟩
    · rfl
    · rfl
    · by_cases gives : old.state.givesWayTo state <;> simp only [gives] <;> rfl

theorem collect_eq (states : Table SharedState) (name : String) :
    collect access states name store =
      match readEntry access name store with
      | (.ok (some entry), after) => (states.insert entry.provider entry.state, after)
      | (_, after) => (states, after) := by
  simp only [collect, bind, StateT.bind, pure]
  rcases readEntry access name store with ⟨fault | _ | entry, after⟩ <;> rfl

/-- Collecting is a plain fold if every step of it leaves the store as it is. -/
theorem foldlM_collect {step : Table SharedState → String → Table SharedState}
    (steps : ∀ states name, collect access states name store = (step states name, store))
    (names : List String) (states : Table SharedState) :
    names.foldlM (collect access) states store = (names.foldl step states, store) := by
  induction names generalizing states with
  | nil => rfl
  | cons name names ih =>
      rw [List.foldlM_cons, List.foldl_cons, ← ih]
      simp only [bind, StateT.bind, steps]

theorem fetchAll_eq :
    fetchAll access store =
      match access.list store with
      | (.ok names, after) =>
        let (states, last) :=
          (names.filter EntryName.isEntry).foldlM (collect access) .empty after
        (.ok states, last)
      | (.error .missing, after) => (.ok .empty, after)
      | (.error fault, after) => (.error (.files fault), after) := by
  simp only [fetchAll, bind, StateT.bind, pure]
  rcases access.list store with ⟨fault | names, after⟩
  · cases fault <;> rfl
  · rfl

end FolderStore

namespace Folder

/-- The entry in the file of a name, if there is such a file. -/
def entry (name : String) (folder : Folder) : Except StoreFault (Option StoreEntry) :=
  match folder.read name with
  | .ok content =>
    match StoreEntry.read? content with
    | some entry => .ok (some entry)
    | none => .error .corrupt
  | .error .missing => .ok none
  | .error fault => .error (.files fault)

theorem readEntry_access (name : String) (folder : Folder) :
    FolderStore.readEntry access name folder = (folder.entry name, folder) := by
  have given : access.read name folder = (folder.read name, folder) := rfl
  rw [FolderStore.readEntry_eq, given, entry]
  cases folder.read name with
  | ok content => cases parsed : StoreEntry.read? content <;> simp only [parsed]
  | error fault => cases fault <;> rfl

/-- Add the entry in a file to the states, if there is one. -/
def gather (folder : Folder) (states : Table SharedState) (name : String) : Table SharedState :=
  match folder.entry name with
  | .ok (some entry) => states.insert entry.provider entry.state
  | _ => states

theorem collect_access (states : Table SharedState) (name : String) (folder : Folder) :
    FolderStore.collect access states name folder = (folder.gather states name, folder) := by
  rw [FolderStore.collect_eq, readEntry_access, gather]
  rcases folder.entry name with fault | _ | entry <;> rfl

theorem foldlM_collect (names : List String) (states : Table SharedState) (folder : Folder) :
    names.foldlM (FolderStore.collect access) states folder =
      (names.foldl folder.gather states, folder) :=
  FolderStore.foldlM_collect access folder (collect_access · · folder) names states

/-- Fetching reads all entries and leaves the folder as it is. -/
theorem fetchAll_present (items : Table FolderItem) :
    FolderStore.fetchAll access (present items) =
      (.ok ((items.names.filter EntryName.isEntry).foldl (present items).gather .empty),
        present items) := by
  have listed : access.list (present items) = (.ok items.names, present items) := rfl
  rw [FolderStore.fetchAll_eq, listed]
  simp only [foldlM_collect]

theorem itemsFor_present (name : String) (items : Table FolderItem) :
    (present items).itemsFor name =
      match nameFault name with
      | some fault => .error fault
      | none => .ok items := by
  simp only [itemsFor, Folder.items]
  cases nameFault name <;> rfl

/-- Writing succeeds under a name that nothing has if it can be used. -/
theorem write_present {name : String} {items : Table FolderItem} (vacant : items.get? name = none)
    {bytes : ByteArray} {after : Folder}
    (written : (present items).write name bytes = (.ok (), after)) :
    nameFault name = none ∧ after = present (items.insert name (.file bytes)) := by
  rw [write, itemsFor_present] at written
  cases unusable : nameFault name with
  | some fault => simp [unusable] at written
  | none => simpa [unusable, vacant, eq_comm] using written

/-- Moving a file puts it in the place of the one that had its new name. -/
theorem rename_present {source target : String} {items : Table FolderItem} {bytes : ByteArray}
    (moved : items.get? source = some (.file bytes)) {after : Folder}
    (renamed : (present items).rename source target = (.ok (), after)) :
    nameFault target = none ∧
      after = present ((items.erase source).insert target (.file bytes)) := by
  rw [rename, itemsFor_present] at renamed
  cases unusable : nameFault source with
  | some fault => simp [unusable] at renamed
  | none =>
      cases misnamed : nameFault target with
      | some fault => simp [unusable, misnamed] at renamed
      | none =>
          rcases replaced : items.get? target with _ | _ | _
          · simpa [unusable, misnamed, moved, replaced, eq_comm] using renamed
          · simpa [unusable, misnamed, moved, replaced, eq_comm] using renamed
          · simp [unusable, misnamed, moved, replaced] at renamed

/-- Replacing an entry changes its own file and no other. -/
theorem replaceEntry_present {temporary : String} {entry : StoreEntry} {items : Table FolderItem}
    (vacant : items.get? temporary = none) {after : Folder}
    (replaced : FolderStore.replaceEntry access temporary entry (present items) =
      (.ok (), after)) :
    nameFault (EntryName.ofProvider entry.provider) = none ∧
      ∃ files, after = present files ∧ ∀ name, files.get? name =
        if name = EntryName.ofProvider entry.provider then some (.file entry.write.toUTF8)
        else items.get? name := by
  rw [FolderStore.replaceEntry_eq] at replaced
  simp only [access] at replaced
  generalize entry.write.toUTF8 = bytes at replaced ⊢
  generalize EntryName.ofProvider entry.provider = target at replaced ⊢
  rcases written : (present items).write temporary bytes with ⟨fault | done, between⟩
  · simp only [written] at replaced
    exact absurd (congrArg Prod.fst replaced) nofun
  obtain ⟨-, rfl⟩ := write_present vacant written
  rcases renamed : (present (items.insert temporary (.file bytes))).rename temporary target with
    ⟨fault | done, last⟩
  · simp only [written, renamed] at replaced
    exact absurd (congrArg Prod.fst replaced) nofun
  have moved : (items.insert temporary (.file bytes)).get? temporary = some (.file bytes) := by simp
  obtain ⟨usable, rfl⟩ := rename_present moved renamed
  have reached := congrArg Prod.snd replaced
  simp only [written, renamed] at reached
  refine ⟨usable, _, reached.symm, fun name => ?_⟩
  rw [Table.get?_insert, Table.get?_erase, Table.get?_insert]
  by_cases placed : name = target
  · simp [placed]
  · by_cases aside : name = temporary
    · subst aside
      simp [vacant, placed, Ne.symm placed]
    · simp [placed, aside, Ne.symm placed, Ne.symm aside]

/-- Publishing looks at the entry that is there and replaces it unless it is a later one. -/
theorem publish_present (temporary provider : String) (state : SharedState)
    (items : Table FolderItem) :
    FolderStore.publish access temporary provider state (present items) =
      match (present items).entry (EntryName.ofProvider provider) with
      | .error fault => (.error fault, present items)
      | .ok (some old) =>
        if old.state.givesWayTo state then
          FolderStore.replaceEntry access temporary ⟨provider, state⟩ (present items)
        else (.ok (), present items)
      | .ok none =>
        FolderStore.replaceEntry access temporary ⟨provider, state⟩ (present items) := by
  have created : access.create (present items) = (.ok (), present items) := rfl
  rw [FolderStore.publish_eq, created]
  simp only [readEntry_access]
  rcases (present items).entry (EntryName.ofProvider provider) with fault | _ | old <;> rfl

theorem fromUTF8?_toUTF8 (text : String) : String.fromUTF8? text.toUTF8 = some text :=
  dif_pos text.isValidUTF8

/-- The entry in a file that was written for it. -/
theorem entry_of_file {items : Table FolderItem} {name provider : String} {state : SharedState}
    (usable : nameFault name = none) (legible : state.Legible)
    (filed : items.get? name = some (.file (StoreEntry.write ⟨provider, state⟩).toUTF8)) :
    (present items).entry name = .ok (some ⟨provider, state⟩) := by
  have content : (present items).read name = .ok (StoreEntry.write ⟨provider, state⟩) := by
    rw [read, itemsFor_present]
    simp only [usable, filed, fromUTF8?_toUTF8]
  simp only [entry, content, StoreEntry.read?_write ⟨provider, state⟩ legible]

/-- Where there is no file there is no entry, or the name cannot be used. -/
theorem entry_of_vacant {items : Table FolderItem} {name : String}
    (vacant : items.get? name = none) :
    (present items).entry name = .ok none ∨ ∃ fault, (present items).entry name = .error fault := by
  rw [entry, read, itemsFor_present]
  cases nameFault name with
  | none => exact .inl (by simp only [vacant])
  | some fault => cases fault <;> first | exact .inl rfl | exact .inr ⟨_, rfl⟩

end Folder

/-- Different numbers make different temporary names. -/
theorem temporaryName_injective :
    Function.Injective fun number : Nat => FolderStore.temporaryName (toString number) := by
  intro first second same
  have numerals : toString first = toString second := by
    simpa [FolderStore.temporaryName, ← String.toList_inj] using same
  have digits : Nat.toDigits 10 first = Nat.toDigits 10 second := String.ofList_inj.mp numerals
  have values := congrArg (Nat.ofDigitChars 10 · 0) digits
  simpa [Nat.ofDigitChars_toDigits] using values

/-- A store in a folder writes its entries first under a name that nothing in it has. -/
theorem SharedStore.get?_freshName (items : Table FolderItem) :
    items.get? (freshName (.present items)) = none := by
  let candidates := (List.range (items.names.length + 1)).map
    (FolderStore.temporaryName ∘ toString)
  have distinct : candidates.Nodup := List.nodup_range.map temporaryName_injective
  have chosen : freshName (.present items) =
      (candidates.find? (!items.names.contains ·)).getD "" := rfl
  cases free : candidates.find? (!items.names.contains ·) with
  | some name =>
      have vacant := List.find?_some free
      rw [chosen, free, Option.getD_some]
      simpa [Table.mem_names_iff] using vacant
  | none =>
      have taken : candidates ⊆ items.names := fun name candidate => by
        simpa using List.find?_eq_none.mp free name candidate
      have short := distinct.length_le_of_subset taken
      simp [candidates] at short

end ProviderRouting
