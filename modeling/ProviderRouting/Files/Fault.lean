/-!
# Faults of files

What can go wrong when files and folders are used, with the texts of the operating system.
-/

namespace ProviderRouting

/-- Why a file or a folder cannot be used. -/
inductive FileFault where
  /-- There is nothing of that name. -/
  | missing
  /-- Something other than a folder is in the way. -/
  | occupied
  /-- A folder was expected and something else found. -/
  | notFolder
  /-- A file was expected and a folder found. -/
  | isFolder
  /-- A folder has something in it. -/
  | notEmpty
  /-- A name has more bytes than names may have. -/
  | nameTooLong
  /-- A name holds a zero byte. -/
  | zeroInName
  /-- The bytes of a file are not a text. -/
  | notText
  /-- Anything else, in the words of the system. -/
  | other (message : String)
deriving DecidableEq

/-- What went wrong, in words. -/
def FileFault.message : FileFault → String
  | missing => "No such file or directory (os error 2)"
  | occupied => "File exists (os error 17)"
  | notFolder => "Not a directory (os error 20)"
  | isFolder => "Is a directory (os error 21)"
  | notEmpty => "Directory not empty (os error 39)"
  | nameTooLong => "File name too long (os error 36)"
  | zeroInName => "file name contained an unexpected NUL byte"
  | notText => "stream did not contain valid UTF-8"
  | other message => message

end ProviderRouting
