import SeriesSchema.Path
import SeriesSchema.Settings
import SeriesSchema.Status

/-!
# Failures

Why a run, or the work on one file, came to nothing.  The words for a failure are in one
place, `Failure.message`; a failure of the file system or of the start of a program also has a cause
of its own, `Failure.cause?`.
-/

namespace SeriesSchema

/-- Why something failed. -/
inductive Failure
  /-- the file at a path declares no type -/
  | noDeclaration (path : Path)
  /-- the input directory could not be listed -/
  | unlistable (path : String) (reason : Reason)
  /-- a file that defines a type could not be read -/
  | unreadable (path : Path) (reason : Reason)
  /-- a schema file, or the directory for it, could not be written -/
  | unwritable (path : String) (reason : Reason)
  /-- the settings are at fault -/
  | settings (fault : SettingsFault)
  /-- the compiler could not be started -/
  | compilerUnavailable (program : String) (reason : Reason)
  /-- the compiler ended without success -/
  | compilerFailed (path : String) (status : Status)
deriving DecidableEq, Repr, Inhabited

namespace Failure

/-- The words for a failure. -/
def message : Failure → String
  | noDeclaration path => "no type declaration found in " ++ path.display
  | unlistable path reason =>
    "failed to list input directory " ++ path ++ ": " ++ reason.message
  | unreadable path reason => "failed to read " ++ path.display ++ ": " ++ reason.message
  | unwritable path reason => "failed to write " ++ path ++ ": " ++ reason.message
  | settings fault => "configuration error: " ++ fault.message
  | compilerUnavailable program reason =>
    "schema compiler " ++ program ++ " could not be started: " ++ reason.message
  | compilerFailed path status =>
    "schema compiler failed on " ++ path ++ " (" ++ status.message ++ ")"

/-- The cause of a failure, where the system gave one. -/
def cause? : Failure → Option Reason
  | unlistable _ reason | unreadable _ reason | unwritable _ reason
  | compilerUnavailable _ reason => some reason
  | noDeclaration _ | settings _ | compilerFailed .. => none

end Failure

end SeriesSchema
