/-!
# Reasons of the file system

Why the system refused an operation.  The words are those in which the system itself puts them.
-/

namespace SeriesSchema

/-- Why the system refused an operation. -/
inductive Reason
  | missing
  | denied
  | alreadyExists
  | notDirectory
  | isDirectory
  | nameTooLong
  /-- a file is not text -/
  | notText
  /-- a path holds the character that ends paths -/
  | nulInPath
  /-- the name of a program, or an argument, holds the character that ends them -/
  | nulInArgument
  /-- the system's own words -/
  | stated (text : String)
deriving DecidableEq, Repr, Inhabited

/-- The words for a reason. -/
def Reason.message : Reason → String
  | missing => "No such file or directory (os error 2)"
  | denied => "Permission denied (os error 13)"
  | alreadyExists => "File exists (os error 17)"
  | notDirectory => "Not a directory (os error 20)"
  | isDirectory => "Is a directory (os error 21)"
  | nameTooLong => "File name too long (os error 36)"
  | notText => "stream did not contain valid UTF-8"
  | nulInPath => "file name contained an unexpected NUL byte"
  | nulInArgument => "nul byte found in provided data"
  | stated text => text

end SeriesSchema
