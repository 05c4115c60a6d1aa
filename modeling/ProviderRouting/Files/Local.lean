import ProviderRouting.Files.Access

/-!
# Local files

The actions on the files of the machine.  Faults are told apart by the numbers that the operating
system gives them.
-/

namespace ProviderRouting

namespace LocalFiles

/-- The fault with a number of the operating system, which some actions give with a minus sign in 32
bits. -/
def faultOfNumber (word : UInt32) (details : String) : FileFault :=
  let number := if word.toNat < UInt32.size / 2 then word.toNat else UInt32.size - word.toNat
  match number with
  | 2 => .missing
  | 17 => .occupied
  | 20 => .notFolder
  | 21 => .isFolder
  | 36 => .nameTooLong
  | 39 => .notEmpty
  | number => .other (details ++ " (os error " ++ toString number ++ ")")

/-- The fault that a failed action tells of. -/
def faultOf : IO.Error → FileFault
  | .noFileOrDirectory _ number details => faultOfNumber number details
  | .alreadyExists _ number details => faultOfNumber number details
  | .inappropriateType _ number details => faultOfNumber number details
  | .invalidArgument _ number details => faultOfNumber number details
  | .permissionDenied _ number details => faultOfNumber number details
  | .resourceExhausted _ number details => faultOfNumber number details
  | .noSuchThing _ number details => faultOfNumber number details
  | .unsatisfiedConstraints number details => faultOfNumber number details
  | .otherError number details => faultOfNumber number details
  | error => .other (toString error)

/-- An action with its fault as a value. -/
def attempt {α : Type} (action : IO α) : IO (Except FileFault α) := do
  match ← action.toBaseIO with
  | .ok value => return .ok value
  | .error error => return .error (faultOf error)

/-- The text of a file. -/
def readText (path : String) : IO (Except FileFault String) := do
  match ← attempt (IO.FS.readBinFile path) with
  | .error fault => return .error fault
  | .ok bytes =>
    match String.fromUTF8? bytes with
    | some text => return .ok text
    | none => return .error .notText

/-- The names of what is in a folder. -/
def names (path : String) : IO (List String) := do
  let entries ← (← IO.FS.realPath path).readDir
  return entries.toList.map fun entry => entry.fileName

end LocalFiles

/-- The actions on the files of the machine. -/
def FileAccess.machine : FileAccess IO where
  exists? path := do return (← LocalFiles.attempt (IO.FS.realPath path)).toBool
  read path := LocalFiles.readText path
  list path := LocalFiles.attempt (LocalFiles.names path)
  createFolder path := LocalFiles.attempt (if path = "" then pure () else IO.FS.createDirAll path)
  write path text := LocalFiles.attempt (IO.FS.writeFile path text)
  rename source target := LocalFiles.attempt (IO.FS.rename source target)
  remove path := LocalFiles.attempt (IO.FS.removeFile path)

end ProviderRouting
