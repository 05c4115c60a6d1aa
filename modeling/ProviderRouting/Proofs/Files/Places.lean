import Mathlib.Data.List.Basic
import ProviderRouting.Files.Disk
import ProviderRouting.Proofs.Tables

/-!
# Places in a folder

A path joined with a name leads to the place of that name directly in the folder at the path, if the
name is neither empty nor a way out.  So what is done under such names changes nothing elsewhere,
but for the folders that are made so that the one at the path is there.
-/

namespace ProviderRouting

namespace Path

/-- Whether a text is the name of something directly in a folder. -/
structure IsName (name : String) : Prop where
  /-- It is not empty. -/
  present : name ≠ ""
  /-- It is not the folder itself. -/
  inside : name ≠ "."
  /-- It is not the folder around the folder. -/
  below : name ≠ ".."
  /-- It is only one name. -/
  single : '/' ∉ name.toList

variable {path name : String}

/-- A text of more than two letters is a name if it has no slash. -/
theorem IsName.of_length (long : 2 < name.length) (single : '/' ∉ name.toList) : IsName name where
  present := by
    rintro rfl
    exact absurd long (by decide)
  inside := by
    rintro rfl
    exact absurd long (by decide)
  below := by
    rintro rfl
    exact absurd long (by decide)
  single := single

theorem IsName.relative (named : IsName name) : isAbsolute name = false := by
  rw [isAbsolute, beq_eq_false_iff_ne]
  exact fun first => named.single (List.mem_of_mem_head? first)

theorem IsName.split (named : IsName name) : name.toList.splitOn '/' = [name.toList] :=
  List.splitOn_eq_singleton named.single

theorem splitOn_append_slash (front : List Char) (named : IsName name) :
    (front ++ '/' :: name.toList).splitOn '/' = front.splitOn '/' ++ [name.toList] := by
  rw [← named.split]
  exact List.splitOnP_append_cons front name.toList (by simp)

/-- A name is the last part of a path that it was joined with.  What is in front of it is the path,
but for a slash at its end. -/
theorem splitOn_join (named : IsName name) (present : path ≠ "") :
    ∃ front, (join path name).toList.splitOn '/' = front ++ [name.toList] ∧
      (path.toList.splitOn '/' = front ∨ path.toList.splitOn '/' = front ++ [[]]) := by
  have away : ¬(isAbsolute name = true ∨ path = "") := by simp [named.relative, present]
  rw [join, if_neg away]
  by_cases slashed : path.toList.getLast? = some '/'
  · obtain ⟨front, ends⟩ := List.getLast?_eq_some_iff.mp slashed
    refine ⟨front.splitOn '/', ?_, .inr ?_⟩
    · rw [if_pos slashed, String.toList_append, ends, List.append_assoc, List.singleton_append,
        splitOn_append_slash front named]
    · rw [ends]
      exact List.splitOnP_append_cons front [] (by simp)
  · refine ⟨path.toList.splitOn '/', ?_, .inl rfl⟩
    rw [if_neg slashed, String.toList_append, String.toList_append, List.append_assoc]
    exact splitOn_append_slash path.toList named

/-- A path stands in front of what was joined with it. -/
theorem join_extends (named : IsName name) (present : path ≠ "") :
    ∃ rest, join path name = path ++ rest := by
  have away : ¬(isAbsolute name = true ∨ path = "") := by simp [named.relative, present]
  rw [join, if_neg away]
  split
  · exact ⟨name, rfl⟩
  · exact ⟨"/" ++ name, String.append_assoc⟩

theorem isAbsolute_append (present : path ≠ "") (rest : String) :
    isAbsolute (path ++ rest) = isAbsolute path := by
  have letters : path.toList ≠ [] := by simpa using present
  rw [isAbsolute, isAbsolute, String.toList_append, List.head?_append_of_ne_nil _ letters]

end Path

namespace Disk

open ProviderRouting.Path

variable {disk before between after : Disk} {path folder full name : String}

/-! ### Places -/

/-- The full path of something directly in a folder. -/
def placeIn (folder name : String) : String := folder ++ "/" ++ name

theorem placeIn_ne_empty (folder name : String) : placeIn folder name ≠ "" := by
  simp [placeIn]

/-- What was put in a folder stands in it under its name. -/
theorem nameIn_placeIn (single : '/' ∉ name.toList) :
    nameIn folder (placeIn folder name) = some name := by
  have letters : (placeIn folder name).toList = (folder ++ "/").toList ++ name.toList :=
    String.toList_append
  rw [nameIn, letters, List.take_left, List.drop_left]
  simp [single]

theorem toUTF8_of_fromUTF8? {bytes : ByteArray} {text : String}
    (valid : String.fromUTF8? bytes = some text) : text.toUTF8 = bytes := by
  rw [String.fromUTF8?] at valid
  split at valid
  · exact congrArg String.toUTF8 (Option.some.inj valid).symm
  · cases valid

theorem item?_put (disk : Disk) (present : full ≠ "") (item : FolderItem) (other : String) :
    (disk.put full item).item? other = if other = full then some item else disk.item? other := by
  by_cases root : other = ""
  · subst root
    simp [item?, present.symm]
  · simp [item?, put, root, eq_comm]

/-- A disk without what was at a full path. -/
def without (disk : Disk) (full : String) : Disk := { disk with items := disk.items.erase full }

theorem item?_without (disk : Disk) (present : full ≠ "") (other : String) :
    (disk.without full).item? other = if other = full then none else disk.item? other := by
  by_cases root : other = ""
  · subst root
    simp [item?, present.symm]
  · simp [item?, without, root, Table.get?_erase, eq_comm]

/-! ### The way to a folder -/

/-- Two actions in a row succeed if both do. -/
theorem bind_eq_ok {α β ε : Type} {action : Except ε α} {next : α → Except ε β} {result : β} :
    (action >>= next) = .ok result ↔ ∃ value, action = .ok value ∧ next value = .ok result := by
  cases action with
  | error fault => exact ⟨nofun, fun ⟨_, succeeded, _⟩ => nomatch succeeded⟩
  | ok value => exact ⟨fun done => ⟨value, rfl, done⟩, fun ⟨_, rfl, done⟩ => done⟩

theorem passageFault_eq_none_iff :
    disk.passageFault full = none ↔ disk.item? full = some .folder := by
  rw [passageFault]
  cases disk.item? full with
  | none => simp
  | some item => cases item <;> simp

/-- A step leads on from a folder only. -/
theorem isFolder_of_step {part : List Char} (stepped : disk.step full part = .ok folder) :
    disk.item? full = some .folder := by
  rw [step] at stepped
  cases passed : disk.passageFault full with
  | none => exact passageFault_eq_none_iff.mp passed
  | some fault => simp [passed] at stepped

/-- A step to a name leads to its place. -/
theorem eq_placeIn_of_step (named : IsName name) {place : String}
    (stepped : disk.step full name.toList = .ok place) : place = placeIn full name := by
  have passed := passageFault_eq_none_iff.mpr (isFolder_of_step stepped)
  have proper : ¬(name.toList = [] ∨ name.toList = ['.']) := by
    rintro (empty | dot)
    · exact named.present (String.toList_inj.mp empty)
    · exact named.inside (String.toList_inj.mp dot)
  have lower : name.toList ≠ ['.', '.'] := fun dots => named.below (String.toList_inj.mp dots)
  simp only [step, passed, if_neg proper, if_neg lower, String.ofList_toList] at stepped
  cases unusable : Folder.nameFault name with
  | none => simpa [unusable, placeIn, eq_comm] using stepped
  | some fault => simp [unusable] at stepped

/-- A path leads somewhere if it can be used and every step of it can be made. -/
theorem locate_eq_ok_iff :
    disk.locate path = .ok full ↔
      (path ≠ "" ∧ '\x00' ∉ path.toList ∧ path.utf8ByteSize ≤ maxPathBytes) ∧
        (path.toList.splitOn '/').foldlM disk.step
          (if isAbsolute path then "" else disk.workingFolder) = .ok full := by
  by_cases empty : path = ""
  · simp [locate, empty]
  by_cases zero : '\x00' ∈ path.toList
  · simp [locate, empty, zero]
  by_cases long : maxPathBytes < path.utf8ByteSize
  · simp [locate, empty, zero, long]
  · simp [locate, empty, zero, long, Nat.le_of_not_lt long]

/-- Whether the folder at a path is the one at a full path.  Without a path, it is the working
folder. -/
structure FolderAt (disk : Disk) (path full : String) : Prop where
  /-- The path leads there. -/
  located : (if path = "" then .ok disk.workingFolder else disk.locate path) = .ok full
  /-- There is a folder. -/
  isFolder : disk.item? full = some .folder

theorem FolderAt.unique {other : String} (first : disk.FolderAt path folder)
    (second : disk.FolderAt path other) : folder = other :=
  Except.ok.inj (first.located.symm.trans second.located)

/-- A path joined with a name leads to the place of the name in the folder at the path. -/
theorem folderAt_of_locate_join (named : IsName name) {place : String}
    (located : disk.locate (join path name) = .ok place) :
    ∃ folder, disk.FolderAt path folder ∧ place = placeIn folder name := by
  obtain ⟨⟨-, clean, short⟩, walked⟩ := locate_eq_ok_iff.mp located
  by_cases empty : path = ""
  · have alone : join path name = name := by simp [join, empty]
    rw [alone, named.split, named.relative, List.foldlM_cons] at walked
    obtain ⟨reached, stepped, done⟩ := bind_eq_ok.mp walked
    obtain rfl := Except.ok.inj done
    exact ⟨disk.workingFolder, ⟨if_pos empty, isFolder_of_step stepped⟩,
      eq_placeIn_of_step named stepped⟩
  · obtain ⟨rest, extended⟩ := join_extends named empty
    obtain ⟨front, parts, ends⟩ := splitOn_join named empty
    rw [parts, extended, isAbsolute_append empty, List.foldlM_append] at walked
    obtain ⟨folder, walk, last⟩ := bind_eq_ok.mp walked
    obtain ⟨reached, stepped, done⟩ := bind_eq_ok.mp last
    obtain rfl := Except.ok.inj done
    have isFolder := isFolder_of_step stepped
    refine ⟨folder, ⟨?_, isFolder⟩, eq_placeIn_of_step named stepped⟩
    rw [extended] at clean short
    have usable : path ≠ "" ∧ '\x00' ∉ path.toList ∧ path.utf8ByteSize ≤ maxPathBytes := by
      refine ⟨empty, fun zero => clean (by simp [zero]), ?_⟩
      rw [String.utf8ByteSize_append] at short
      omega
    rw [if_neg empty, locate_eq_ok_iff]
    refine ⟨usable, ?_⟩
    -- A slash at the end of the path makes for one more step, which stays in the folder.
    obtain same | slashed := ends
    · rw [same, walk]
    · have stays : disk.step folder [] = .ok folder := by
        simp [step, passageFault_eq_none_iff.mpr isFolder]
      rw [slashed, List.foldlM_append]
      exact bind_eq_ok.mpr ⟨folder, walk, bind_eq_ok.mpr ⟨folder, stays, rfl⟩⟩

/-- What is in the folder at a path is listed. -/
theorem FolderAt.mem_list (here : disk.FolderAt path folder) (given : path ≠ "")
    (single : '/' ∉ name.toList) {item : FolderItem}
    (present : disk.item? (placeIn folder name) = some item) :
    ∃ names, disk.list path = .ok names ∧ name ∈ names := by
  have located : disk.locate path = .ok folder := by simpa [given] using here.located
  refine ⟨disk.items.names.filterMap (nameIn folder), ?_, ?_⟩
  · simp only [list, located, bind, Except.bind, passageFault_eq_none_iff.mpr here.isFolder]
  · have filed : disk.items.get? (placeIn folder name) = some item := by
      simpa [item?, placeIn_ne_empty] using present
    have listed := Table.mem_names_iff.mpr (Option.isSome_of_eq_some filed)
    exact List.mem_filterMap.mpr ⟨_, listed, nameIn_placeIn single⟩

/-! ### What may become of a disk -/

/-- What may become of a disk on which folders are made. -/
structure MakesFolders (before after : Disk) : Prop where
  /-- The working folder is the same. -/
  workingFolder : after.workingFolder = before.workingFolder
  /-- What is not a new folder stays as it is. -/
  others : ∀ full, after.item? full = before.item? full ∨
    before.item? full = none ∧ after.item? full = some .folder

/-- What may become of a disk on which files of some names are changed in the folder at a path. -/
structure Changes (path : String) (names : List String) (before after : Disk) : Prop where
  /-- The working folder is the same. -/
  workingFolder : after.workingFolder = before.workingFolder
  /-- No folder is lost. -/
  folders : ∀ full, before.item? full = some .folder → after.item? full = some .folder
  /-- What does not have one of the names in the folder stays as it is. -/
  others : ∀ full, after.item? full = before.item? full ∨
    ∃ folder, after.FolderAt path folder ∧ ∃ name ∈ names, full = placeIn folder name

namespace MakesFolders

theorem refl (disk : Disk) : MakesFolders disk disk := ⟨rfl, fun _ => .inl rfl⟩

theorem trans (first : MakesFolders before between) (second : MakesFolders between after) :
    MakesFolders before after where
  workingFolder := second.workingFolder.trans first.workingFolder
  others full := by
    rcases second.others full with same | ⟨absent, made⟩
    · rw [same]
      exact first.others full
    · rcases first.others full with still | ⟨-, folder⟩
      · exact .inr ⟨still.symm.trans absent, made⟩
      · exact absurd (absent.symm.trans folder) nofun

theorem made (absent : disk.item? full = none) : MakesFolders disk (disk.put full .folder) := by
  have present : full ≠ "" := by
    rintro rfl
    exact absurd absent nofun
  refine ⟨rfl, fun other => ?_⟩
  rw [item?_put disk present]
  by_cases here : other = full
  · exact .inr ⟨here ▸ absent, if_pos here⟩
  · exact .inl (if_neg here)

end MakesFolders

/-- A path leads to the same place as long as no folder is lost. -/
theorem locate_mono (working : after.workingFolder = before.workingFolder)
    (kept : ∀ full, before.item? full = some .folder → after.item? full = some .folder)
    (located : before.locate path = .ok full) : after.locate path = .ok full := by
  obtain ⟨usable, walked⟩ := locate_eq_ok_iff.mp located
  refine locate_eq_ok_iff.mpr ⟨usable, ?_⟩
  rw [working]
  -- A step looks at the disk only to see that it starts from a folder, and every folder is kept.
  generalize (if isAbsolute path then "" else before.workingFolder) = start at walked ⊢
  generalize path.toList.splitOn '/' = parts at walked ⊢
  induction parts generalizing start with
  | nil => exact walked
  | cons part parts ih =>
      obtain ⟨reached, stepped, rest⟩ := bind_eq_ok.mp walked
      have passed := isFolder_of_step stepped
      have same : after.step start part = before.step start part := by
        rw [step, step, passageFault_eq_none_iff.mpr passed,
          passageFault_eq_none_iff.mpr (kept start passed)]
      exact bind_eq_ok.mpr ⟨reached, same.trans stepped, ih reached rest⟩

theorem FolderAt.mono (here : before.FolderAt path folder)
    (working : after.workingFolder = before.workingFolder)
    (kept : ∀ full, before.item? full = some .folder → after.item? full = some .folder) :
    after.FolderAt path folder := by
  refine ⟨?_, kept folder here.isFolder⟩
  have located := here.located
  by_cases empty : path = ""
  · rw [if_pos empty] at located ⊢
    rw [working, located]
  · rw [if_neg empty] at located ⊢
    exact locate_mono working kept located

theorem FolderAt.stays {root : String} {names : List String} (here : before.FolderAt path folder)
    (changes : Changes root names before after) : after.FolderAt path folder :=
  here.mono changes.workingFolder changes.folders

namespace Changes

variable {names : List String}

theorem refl (disk : Disk) : Changes path names disk disk where
  workingFolder := rfl
  folders _ folder := folder
  others _ := .inl rfl

theorem trans (first : Changes path names before between)
    (second : Changes path names between after) : Changes path names before after where
  workingFolder := second.workingFolder.trans first.workingFolder
  folders full folder := second.folders full (first.folders full folder)
  others full := by
    rcases second.others full with same | named
    · rcases first.others full with still | ⟨folder, here, named⟩
      · exact .inl (same.trans still)
      · exact .inr ⟨folder, here.stays second, named⟩
    · exact .inr named

/-- A file of one of the names may come, change or go. -/
theorem placed (here : before.FolderAt path folder) (member : name ∈ names)
    (noFolder : before.item? (placeIn folder name) ≠ some .folder)
    (working : after.workingFolder = before.workingFolder) {item : Option FolderItem}
    (lookup : ∀ full, after.item? full =
      if full = placeIn folder name then item else before.item? full) :
    Changes path names before after := by
  have kept : ∀ full, before.item? full = some .folder → after.item? full = some .folder := by
    intro full isFolder
    rw [lookup, if_neg, isFolder]
    rintro rfl
    exact noFolder isFolder
  refine ⟨working, kept, fun full => ?_⟩
  by_cases own : full = placeIn folder name
  · exact .inr ⟨folder, here.mono working kept, name, member, own⟩
  · exact .inl ((lookup full).trans (if_neg own))

end Changes

/-! ### What one action does -/

section Actions

variable {names : List String} {bytes : ByteArray}

theorem makeFolder_cases (made : disk.makeFolder path = .ok after) :
    ∃ full, disk.item? full = none ∧ after = disk.put full .folder := by
  obtain ⟨full, -, placed⟩ := bind_eq_ok.mp made
  cases there : disk.item? full with
  | some item => simp [there] at placed
  | none =>
      refine ⟨full, there, ?_⟩
      simpa [there, eq_comm] using placed

theorem makesFolders_makeFolder (made : disk.makeFolder full = .ok after) :
    MakesFolders disk after := by
  obtain ⟨place, absent, rfl⟩ := makeFolder_cases made
  exact .made absent

/-- Making a folder and those around it does nothing else. -/
theorem makesFolders_makeFolders {fuel : Nat} {target : String}
    (made : makeFolders fuel target disk = .ok after) : MakesFolders disk after := by
  induction fuel generalizing target after with
  | zero => exact Except.ok.inj made ▸ .refl disk
  | succ fuel ih =>
      rw [makeFolders] at made
      by_cases empty : target = ""
      · rw [if_pos empty] at made
        exact Except.ok.inj made ▸ .refl disk
      rw [if_neg empty] at made
      split at made
      case h_1 reached tried => exact makesFolders_makeFolder (tried.trans made)
      case h_2 =>
        split at made
        · cases made
        · obtain ⟨between, around, last⟩ := bind_eq_ok.mp made
          split at last
          · exact Except.ok.inj last ▸ ih around
          · exact (ih around).trans (makesFolders_makeFolder last)
      case h_3 =>
        split at made
        · exact Except.ok.inj made ▸ .refl disk
        · cases made

/-- A file is written at the place of its name. -/
theorem write_join (named : IsName name) (written : disk.write (join path name) bytes = .ok after) :
    ∃ folder, disk.FolderAt path folder ∧ disk.item? (placeIn folder name) ≠ some .folder ∧
      after = disk.put (placeIn folder name) (.file bytes) := by
  obtain ⟨place, located, placed⟩ := bind_eq_ok.mp written
  obtain ⟨folder, here, rfl⟩ := folderAt_of_locate_join named located
  refine ⟨folder, here, ?_⟩
  split at placed
  · cases placed
  · exact ⟨‹_›, (Except.ok.inj placed).symm⟩

/-- A file is moved from the place of one name to that of another. -/
theorem rename_join {source target : String} (origin : IsName source) (goal : IsName target)
    (renamed : disk.rename (join path source) (join path target) = .ok after) :
    ∃ folder bytes, disk.FolderAt path folder ∧
      disk.locate (join path target) = .ok (placeIn folder target) ∧
      disk.item? (placeIn folder source) = some (.file bytes) ∧
      disk.item? (placeIn folder target) ≠ some .folder ∧
      after = (disk.without (placeIn folder source)).put (placeIn folder target) (.file bytes) := by
  obtain ⟨place, located, rest⟩ := bind_eq_ok.mp renamed
  obtain ⟨last, reached, moved⟩ := bind_eq_ok.mp rest
  obtain ⟨folder, here, rfl⟩ := folderAt_of_locate_join origin located
  obtain ⟨other, there, rfl⟩ := folderAt_of_locate_join goal reached
  obtain rfl := here.unique there
  rcases filed : disk.item? (placeIn folder source) with _ | bytes | _
  · simp [filed] at moved
  · by_cases blocked : disk.item? (placeIn folder target) = some .folder
    · simp [filed, blocked] at moved
    · refine ⟨folder, bytes, here, reached, filed, blocked, ?_⟩
      simpa [filed, blocked, without, eq_comm] using moved
  · simp [filed] at moved

/-- A file is removed from the place of its name. -/
theorem remove_join (named : IsName name) (removed : disk.remove (join path name) = .ok after) :
    ∃ folder bytes, disk.FolderAt path folder ∧
      disk.item? (placeIn folder name) = some (.file bytes) ∧
      after = disk.without (placeIn folder name) := by
  obtain ⟨place, located, erased⟩ := bind_eq_ok.mp removed
  obtain ⟨folder, here, rfl⟩ := folderAt_of_locate_join named located
  rcases filed : disk.item? (placeIn folder name) with _ | bytes | _
  · simp [filed] at erased
  · exact ⟨folder, bytes, here, filed, by simpa [filed, without, eq_comm] using erased⟩
  · simp [filed] at erased

/-- A file is read at the place of its name. -/
theorem read_join {text : String} (named : IsName name)
    (known : disk.read (join path name) = .ok text) :
    ∃ folder, disk.FolderAt path folder ∧
      disk.item? (placeIn folder name) = some (.file text.toUTF8) := by
  obtain ⟨item, found, decoded⟩ := bind_eq_ok.mp known
  obtain ⟨place, located, present⟩ := bind_eq_ok.mp found
  obtain ⟨folder, here, rfl⟩ := folderAt_of_locate_join named located
  refine ⟨folder, here, ?_⟩
  rcases filed : disk.item? (placeIn folder name) with _ | other
  · simp [filed] at present
  obtain rfl : other = item := by simpa [filed] using present
  cases other with
  | folder => simp at decoded
  | file bytes =>
      cases valid : String.fromUTF8? bytes with
      | none => simp [valid] at decoded
      | some other =>
          obtain rfl : other = text := by simpa [valid] using decoded
          rw [toUTF8_of_fromUTF8? valid]

/-- A text is read from its file. -/
theorem read_of_locate {text : String} (located : disk.locate path = .ok full)
    (filed : disk.item? full = some (.file text.toUTF8)) : disk.read path = .ok text := by
  have found : disk.find path = .ok (.file text.toUTF8) :=
    bind_eq_ok.mpr ⟨full, located, by simp only [filed]⟩
  have valid : String.fromUTF8? text.toUTF8 = some text := dif_pos text.isValidUTF8
  exact bind_eq_ok.mpr ⟨_, found, by simp only [valid]⟩

theorem changes_write (named : IsName name) (member : name ∈ names)
    (written : disk.write (join path name) bytes = .ok after) : Changes path names disk after := by
  obtain ⟨folder, here, noFolder, rfl⟩ := write_join named written
  exact .placed here member noFolder rfl (item?_put _ (placeIn_ne_empty _ _) _)

theorem changes_remove (named : IsName name) (member : name ∈ names)
    (removed : disk.remove (join path name) = .ok after) : Changes path names disk after := by
  obtain ⟨folder, bytes, here, filed, rfl⟩ := remove_join named removed
  exact .placed here member (by simp [filed]) rfl (item?_without _ (placeIn_ne_empty _ _))

theorem changes_rename {source target : String} (origin : IsName source) (goal : IsName target)
    (left : source ∈ names) (reached : target ∈ names)
    (renamed : disk.rename (join path source) (join path target) = .ok after) :
    Changes path names disk after := by
  obtain ⟨folder, bytes, here, -, filed, noFolder, rfl⟩ := rename_join origin goal renamed
  have gone := item?_without disk (placeIn_ne_empty folder source)
  have removed : Changes path names disk (disk.without (placeIn folder source)) :=
    .placed here left (by simp [filed]) rfl gone
  refine removed.trans (.placed (here.stays removed) reached ?_ rfl
    (item?_put _ (placeIn_ne_empty _ _) _))
  rw [gone]
  split
  · exact nofun
  · exact noFolder

variable {change : Disk → Except FileFault Disk}

/-- A changing action succeeds if its change does. -/
theorem changing_eq_ok : changing change disk = (.ok (), after) ↔ change disk = .ok after := by
  rw [changing]
  cases change disk with
  | ok reached =>
      exact ⟨fun same => congrArg Except.ok (Prod.mk.inj same).2,
        fun same => congrArg (Prod.mk _) (Except.ok.inj same)⟩
  | error fault => exact ⟨fun same => absurd (Prod.mk.inj same).1 nofun, nofun⟩

/-- A changing action that fails leaves the disk as it is. -/
theorem eq_of_changing_error {fault : FileFault}
    (failed : changing change disk = (.error fault, after)) : after = disk := by
  rw [changing] at failed
  cases changed : change disk with
  | ok reached =>
      rw [changed] at failed
      exact absurd (Prod.mk.inj failed).1 nofun
  | error fault =>
      rw [changed] at failed
      exact (Prod.mk.inj failed).2.symm

theorem changes_changing
    (succeeds : ∀ after, change disk = .ok after → Changes path names disk after) :
    Changes path names disk (changing change disk).2 := by
  rcases changed : changing change disk with ⟨fault | done, after⟩
  · obtain rfl := eq_of_changing_error changed
    exact .refl after
  · exact succeeds after (changing_eq_ok.mp changed)

end Actions

end Disk

end ProviderRouting
