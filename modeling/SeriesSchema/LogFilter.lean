import SeriesSchema.Event
import SeriesSchema.Text.Word

/-!
# Log filters

Which events are shown.  A log filter is made from a text, and the language of these texts is that
of the library that keeps the log.  So what reads them is a parameter, as the compiler of schema
files is: a `FilterReader` gives a filter for a text, or says why it gives none.  Nothing more is
asked of it.

What is settled here is which text is read (`LogFilter.choose`).
-/

namespace SeriesSchema

/-- Why a text is no log filter: the words for it, from the outermost cause to the innermost. -/
structure FilterFault where
  messages : List String
deriving DecidableEq, Repr, Inhabited

/-- A log filter. -/
structure LogFilter where
  /-- whether an event is shown -/
  shows : Event → Bool

/-- What reads log filters. -/
abbrev FilterReader := String → Except FilterFault LogFilter

/-- The filter to use: the one in the environment if it is well-formed and not blank, else the one
on the command line, else the one in the settings. -/
def LogFilter.choose (read : FilterReader) (environment flag : Option String)
    (configured : String) : Except (String × FilterFault) LogFilter :=
  let level := flag.getD configured
  let fallback : Except (String × FilterFault) LogFilter :=
    match read level with
    | .ok f => .ok f
    | .error fault => .error (level, fault)
  match environment with
  | some text =>
    if text.toList.all Text.isBlank then fallback
    else
      match read text with
      | .ok f => .ok f
      | .error _ => fallback
  | none => fallback

end SeriesSchema
