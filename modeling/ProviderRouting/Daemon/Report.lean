import ProviderRouting.Files.Fault

/-!
# Failure reports

A failure is reported by what could not be done and, one level deeper each, why.  The causes are
indented, with all their lines; if there are several, they are numbered.
-/

namespace ProviderRouting

/-- A failure with its causes, the nearest first. -/
structure FailureReport where
  /-- What could not be done. -/
  headline : String
  /-- Why. -/
  causes : List String
deriving DecidableEq

namespace FailureReport

/-- A cause behind a mark; its further lines are indented as deeply as its first one. -/
def indented (mark cause : String) : String :=
  mark ++ String.ofList (cause.toList.flatMap fun letter =>
    if letter = '\n' then '\n' :: List.replicate mark.length ' ' else [letter])

/-- Causes from a number on. -/
def numbered : (number : Nat) → List String → List String
  | _, [] => []
  | number, cause :: rest =>
    indented ("    " ++ toString number ++ ": ") cause :: numbered (number + 1) rest

/-- The text of a report. -/
def write (report : FailureReport) : String :=
  let causes := match report.causes with
    | [] => []
    | [cause] => ["", "Caused by:", indented "    " cause]
    | causes => ["", "Caused by:"] ++ numbered 0 causes
  "\n".intercalate (("Error: " ++ report.headline) :: causes)

/-- A cause, and behind it the fault of a file, if there was one. -/
def causeChain (message : String) (fault : Option FileFault) : List String :=
  message :: (fault.map FileFault.message).toList

end FailureReport

end ProviderRouting
