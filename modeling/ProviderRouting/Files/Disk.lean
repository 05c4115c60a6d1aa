import ProviderRouting.Files.Folder

/-!
# Disks as values

A disk is modelled by the files and folders on it, each under its full path.  Relative paths start
at the working folder.  A path is walked name by name: everything but its end must be a folder.
-/

namespace ProviderRouting

/-- The files and folders of a system. -/
structure Disk where
  /-- What there is, by full path; the root alone has the empty one. -/
  items : Table FolderItem
  /-- The full path of the working folder. -/
  workingFolder : String
deriving Inhabited

namespace Disk

/-- The most bytes that a path may have. -/
def maxPathBytes : Nat := 4095

/-- What there is at a full path. -/
def item? (disk : Disk) (full : String) : Option FolderItem :=
  if full = "" then some .folder else disk.items.get? full

/-- Put something at a full path. -/
def put (disk : Disk) (full : String) (item : FolderItem) : Disk :=
  { disk with items := disk.items.insert full item }

/-- Whether a full path has to be walked through, and why that cannot be done. -/
def passageFault (disk : Disk) (full : String) : Option FileFault :=
  match disk.item? full with
  | some .folder => none
  | some (.file _) => some .notFolder
  | none => some .missing

/-- The full path around a full path. -/
def above (full : String) : String :=
  String.ofList ((full.toList.reverse.dropWhile (· ≠ '/')).drop 1).reverse

/-- Go on from a full path by one name. -/
def step (disk : Disk) (full : String) (part : List Char) : Except FileFault String :=
  match disk.passageFault full with
  | some fault => .error fault
  | none =>
    if part = [] ∨ part = ['.'] then .ok full
    else if part = ['.', '.'] then .ok (above full)
    else
      let name := String.ofList part
      match Folder.nameFault name with
      | some fault => .error fault
      | none => .ok (full ++ "/" ++ name)

/-- The full path that a path leads to.  There need not be anything at its end. -/
def locate (disk : Disk) (path : String) : Except FileFault String :=
  if path = "" then .error .missing
  else if path.toList.contains '\x00' then .error .zeroInName
  else if maxPathBytes < path.utf8ByteSize then .error .nameTooLong
  else
    let start := if Path.isAbsolute path then "" else disk.workingFolder
    (path.toList.splitOn '/').foldlM disk.step start

/-- What there is at a path. -/
def find (disk : Disk) (path : String) : Except FileFault FolderItem := do
  let full ← disk.locate path
  match disk.item? full with
  | some item => .ok item
  | none => .error .missing

/-- Whether there is something at a path. -/
def exists? (disk : Disk) (path : String) : Bool := (disk.find path).toBool

/-- The text of a file. -/
def read (disk : Disk) (path : String) : Except FileFault String := do
  match ← disk.find path with
  | .folder => .error .isFolder
  | .file bytes =>
    match String.fromUTF8? bytes with
    | some text => .ok text
    | none => .error .notText

/-- The name under which something at a full path stands directly in a folder. -/
def nameIn (folder full : String) : Option String :=
  let start := (folder ++ "/").toList
  let letters := full.toList
  let rest := letters.drop start.length
  if letters.take start.length = start ∧ ¬rest.contains '/' then some (String.ofList rest)
  else none

/-- The names of what is in a folder. -/
def list (disk : Disk) (path : String) : Except FileFault (List String) := do
  let full ← disk.locate path
  match disk.passageFault full with
  | some fault => .error fault
  | none => .ok (disk.items.names.filterMap (nameIn full))

/-- Write a file. -/
def write (disk : Disk) (path : String) (bytes : ByteArray) : Except FileFault Disk := do
  let full ← disk.locate path
  match disk.item? full with
  | some .folder => .error .isFolder
  | _ => .ok (disk.put full (.file bytes))

/-- Make one folder; slashes at the end of its path do not count. -/
def makeFolder (disk : Disk) (path : String) : Except FileFault Disk := do
  let full ← disk.locate (String.ofList (Path.trimmed path).reverse)
  match disk.item? full with
  | some _ => .error .occupied
  | none => .ok (disk.put full .folder)

/-- Whether there is a folder at a path. -/
def isFolder (disk : Disk) (path : String) : Bool :=
  match disk.find path with
  | .ok .folder => true
  | _ => false

/-- Make a folder and those around it, unless it is there.  `fuel` bounds the number of folders. -/
def makeFolders : (fuel : Nat) → (path : String) → Disk → Except FileFault Disk
  | 0, _, disk => .ok disk
  | fuel + 1, path, disk =>
    if path = "" then .ok disk
    else match disk.makeFolder path with
      | .ok disk => .ok disk
      | .error .missing =>
        match Path.parent? path with
        | none => .error .missing
        | some parent => do
          let disk ← makeFolders fuel parent disk
          if disk.isFolder path then .ok disk else disk.makeFolder path
      | .error fault => if disk.isFolder path then .ok disk else .error fault

/-- Move a file to another path, in place of a file that is there. -/
def rename (disk : Disk) (source target : String) : Except FileFault Disk := do
  let origin ← disk.locate source
  let goal ← disk.locate target
  match disk.item? origin, disk.item? goal with
  | some (.file _), some .folder => .error .isFolder
  | some (.file bytes), _ =>
    .ok ({ disk with items := disk.items.erase origin }.put goal (.file bytes))
  | some .folder, _ => .error .isFolder
  | none, _ => .error .missing

/-- Remove a file. -/
def remove (disk : Disk) (path : String) : Except FileFault Disk := do
  let full ← disk.locate path
  match disk.item? full with
  | some (.file _) => .ok { disk with items := disk.items.erase full }
  | some .folder => .error .isFolder
  | none => .error .missing

/-- What a system has from the start: the folders in its root, and a device that reads as an empty
file. -/
def standardItems : List (String × FolderItem) :=
  (["bin", "dev", "etc", "home", "lib", "opt", "proc", "root", "run", "sbin", "sys", "tmp", "usr",
    "var"].map fun name => ("/" ++ name, .folder)) ++ [("/dev/null", .file .empty)]

/-- The disk of a system with a working folder in the root that holds files, and the folders they
need. -/
def ofFiles (workingFolder : String) (files : List (String × String)) : Disk :=
  files.foldl (fun disk entry =>
    let folder := (Path.parent? entry.1).getD ""
    let disk := (makeFolders entry.1.length folder disk).toOption.getD disk
    (disk.write entry.1 entry.2.toUTF8).toOption.getD disk)
    ⟨.ofList ((workingFolder, .folder) :: standardItems), workingFolder⟩

/-- An action that changes the disk if it succeeds. -/
def changing (change : Disk → Except FileFault Disk) : StateM Disk (Except FileFault Unit) :=
  fun disk =>
    match change disk with
    | .ok disk => (.ok (), disk)
    | .error fault => (.error fault, disk)

/-- The actions on a disk that is kept as a state. -/
def access : FileAccess (StateM Disk) where
  exists? path disk := (disk.exists? path, disk)
  read path disk := (disk.read path, disk)
  list path disk := (disk.list path, disk)
  createFolder path := changing (makeFolders path.length path)
  write path text := changing fun disk => disk.write path text.toUTF8
  rename source target := changing fun disk => disk.rename source target
  remove path := changing fun disk => disk.remove path

end Disk

end ProviderRouting
