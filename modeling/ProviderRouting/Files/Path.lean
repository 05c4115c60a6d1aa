/-!
# Paths

Paths are texts with slashes between names.  They are kept as they are given; only what joins them
or takes them apart looks at their slashes.
-/

namespace ProviderRouting.Path

/-- Whether a path starts at the root. -/
def isAbsolute (path : String) : Bool := path.toList.head? == some '/'

/-- A path below another one.  A slash is added unless one is there. -/
def join (path name : String) : String :=
  if isAbsolute name ∨ path = "" then name
  else if path.toList.getLast? = some '/' then path ++ name
  else path ++ "/" ++ name

/-- The parts between the slashes. -/
def parts (path : List Char) : List (List Char) := path.splitOn '/'

/-- Drop slashes, and names that are a single dot, from the end. -/
def dropEmptyEnd (fuel : Nat) (reversed : List Char) : List Char :=
  match fuel, reversed with
  | fuel + 1, '/' :: '.' :: '/' :: rest => dropEmptyEnd fuel ('/' :: rest)
  | fuel + 1, '.' :: '/' :: rest => dropEmptyEnd fuel ('/' :: rest)
  | fuel + 1, '/' :: letter :: rest => dropEmptyEnd fuel (letter :: rest)
  | _, reversed => reversed

/-- A path without slashes and single dots at its end, reversed. -/
def trimmed (path : String) : List Char :=
  let letters := path.toList.reverse
  dropEmptyEnd letters.length letters

/-- The last name of a path, unless it is empty, the root, or leads upwards. -/
def fileName? (path : String) : Option String :=
  let name := ((trimmed path).takeWhile (· ≠ '/')).reverse
  if name = [] ∨ name = ['.', '.'] ∨ name = ['.'] then none else some (String.ofList name)

/-- The path without its last name. -/
def parent? (path : String) : Option String :=
  let reversed := trimmed path
  if reversed = [] ∨ reversed = ['/'] then none
  else
    let rest := reversed.dropWhile (· ≠ '/')
    match rest with
    | ['/'] => some "/"
    | rest => some (String.ofList (trimmed (String.ofList rest.reverse)).reverse)

/-- The name before its last dot and the extension after it.  A dot in front of everything else does
not start an extension. -/
def splitExtension (name : List Char) : List Char × Option (List Char) :=
  let reversed := name.reverse
  let extension := reversed.takeWhile (· ≠ '.')
  match reversed.dropWhile (· ≠ '.') with
  | '.' :: stem => if stem = [] then (name, none) else (stem.reverse, some extension.reverse)
  | _ => (name, none)

/-- The extension of a name. -/
def extension? (name : String) : Option String :=
  (splitExtension name.toList).2.map String.ofList

/-- A path with something else from the last dot of its last name on. -/
def afterStem (path ending : String) : String :=
  match fileName? path with
  | none => path
  | some name =>
    let stem := String.ofList (splitExtension name.toList).1
    let folder := String.ofList ((trimmed path).dropWhile (· ≠ '/')).reverse
    folder ++ stem ++ ending

/-- A path whose last name has its extension replaced.  The old extension is dropped first, and a
path that leads upwards without it stays so. -/
def withExtension (path extension : String) : String :=
  let old := (fileName? path).bind extension?
  let letters := path.toList
  let cut := String.ofList (letters.take (letters.length - (old.map (·.length)).getD 0))
  afterStem cut ("." ++ extension)

end ProviderRouting.Path
