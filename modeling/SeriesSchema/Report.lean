import SeriesSchema.Failure
import SeriesSchema.LogFilter
import SeriesSchema.Text.Split

/-!
# Error reports

What the program prints when it fails: what it was doing, and the causes, from the outermost to the
innermost, numbered if there are several.
-/

namespace SeriesSchema

/-- A message and its causes. -/
structure Report where
  message : String
  causes : List String
deriving DecidableEq, Repr, Inhabited

/-- The lines of a text. -/
def linesOf (text : String) : List String :=
  (Text.split '\n' text.toList).map String.ofList

namespace Report

/-- The chain of messages of a failure. -/
def chain (f : Failure) : List String :=
  f.message :: (f.cause?.map Reason.message).toList

/-- A failure, reported by itself. -/
def ofFailure (f : Failure) : Report :=
  ⟨f.message, (f.cause?.map Reason.message).toList⟩

/-- A failure, as the cause of what was being done. -/
def during (activity : String) (f : Failure) : Report :=
  ⟨activity, chain f⟩

/-- A log filter that is none. -/
def badFilter (level : String) (fault : FilterFault) : Report :=
  ⟨"Invalid log level: " ++ level, fault.messages⟩

/-- The number of a cause, at the width that all numbers have. -/
def numberLabel (n : Nat) : String :=
  let digits := toString n
  String.ofList (List.replicate (5 - digits.length) ' ') ++ digits ++ ": "

/-- The lines of a cause; `label` stands before the first and blanks before the others. -/
def causeLines (label cause : String) : List String :=
  match linesOf cause with
  | [] => []
  | first :: more =>
    (label ++ first) :: more.map (String.ofList (List.replicate label.length ' ') ++ ·)

/-- The lines of some causes, numbered from `n` on. -/
def numberedLines (n : Nat) : List String → List String
  | [] => []
  | cause :: causes => causeLines (numberLabel n) cause ++ numberedLines (n + 1) causes

/-- The lines of a report. -/
def lines (r : Report) : List String :=
  linesOf ("Error: " ++ r.message) ++
    match r.causes with
    | [] => []
    | [cause] => ["", "Caused by:"] ++ causeLines "    " cause
    | causes => ["", "Caused by:"] ++ numberedLines 0 causes

end Report

end SeriesSchema
