/-!
# How a program ends

A program that was started ends with an exit code or is ended by a signal.  Code 0 alone is success.
-/

namespace SeriesSchema

/-- The end of a program: its exit code, or none if a signal ended it. -/
structure Status where
  code : Option Int
deriving DecidableEq, Repr, Inhabited

namespace Status

/-- Whether a program ended with exit code 0. -/
def isSuccess (s : Status) : Bool :=
  s.code == some 0

/-- The words for the end of a program. -/
def message (s : Status) : String :=
  match s.code with
  | some code => "exit code " ++ toString code
  | none => "terminated by signal"

end Status

end SeriesSchema
