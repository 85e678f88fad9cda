import SeriesSchema.Reason
import SeriesSchema.Status
import SeriesSchema.Text.Quoted

/-!
# Events

What a run tells about itself while it goes on.  An event is data: its level, the part of the
program that it comes from, and its fields.  `Event.line` writes it down; which events are shown is
the business of a log filter, and an event has happened whether it is shown or not.
-/

namespace SeriesSchema

/-- How much an event matters, from most to least. -/
inductive Level
  | error
  | warn
  | info
  | debug
  | trace
deriving DecidableEq, Repr, Inhabited

namespace Level

/-- The place of a level in the order from `error`, which is 1, to `trace`, which is 5. -/
def rank : Level → Nat
  | error => 1
  | warn => 2
  | info => 3
  | debug => 4
  | trace => 5

/-- The label of a level in a log line. -/
def label : Level → String
  | error => "ERROR"
  | warn => "WARN"
  | info => "INFO"
  | debug => "DEBUG"
  | trace => "TRACE"

end Level

/-- Something that happened in a run. -/
inductive Event
  /-- a definition was read from a file -/
  | extracted (extractor file type : String) (fields : Nat)
  /-- the files of the input directory have been listed -/
  | listed (inputDir : String) (files : Nat) (extractor : String)
  /-- a schema file was written -/
  | wrote (source schema : String) (fields : Nat)
  /-- the compiler is about to be started -/
  | running (program : String) (arguments : List String)
  /-- the compiler ended without success, and the run goes on -/
  | compilerFailed (schema : String) (status : Status)
  /-- the compiler could not be started, and the run goes on -/
  | compilerUnavailable (program : String) (reason : Reason)
deriving DecidableEq, Repr, Inhabited

namespace Event

/-- The level of an event. -/
def level : Event → Level
  | extracted .. | running .. => .debug
  | listed .. | wrote .. => .info
  | compilerFailed .. | compilerUnavailable .. => .warn

/-- The part of the program that an event comes from. -/
def target : Event → String
  | extracted .. => "protoseries_core::extract"
  | running .. => "protoseries_core::compiler"
  | listed .. | wrote .. | compilerFailed .. | compilerUnavailable .. =>
    "protoseries_core::translator"

/-- The message of an event. -/
def message : Event → String
  | extracted .. => "Extracted definition"
  | listed .. => "Translating definitions"
  | wrote .. => "Wrote schema"
  | running .. => "Running schema compiler"
  | compilerFailed .. => "Schema compiler failed"
  | compilerUnavailable .. => "Schema compiler could not be started"

/-- The fields of an event, each with its name, in the order in which they are shown. -/
def fields : Event → List (String × String)
  | extracted extractor file type fields =>
    [("extractor", Text.quoted extractor), ("file", file), ("type_name", type),
      ("fields", toString fields)]
  | listed inputDir files extractor =>
    [("input_dir", inputDir), ("files", toString files), ("extractor", Text.quoted extractor)]
  | wrote source schema fields =>
    [("source", source), ("schema", schema), ("fields", toString fields)]
  | running program arguments =>
    [("program", program), ("args", Text.quotedList arguments)]
  | compilerFailed schema status => [("schema", schema), ("status", status.message)]
  | compilerUnavailable program reason => [("program", program), ("error", reason.message)]

/-- An event as a line of the log. -/
def line (e : Event) : String :=
  e.level.label ++ " " ++ e.message ++
    String.join (e.fields.map fun f => " " ++ f.1 ++ "=" ++ f.2)

end Event

end SeriesSchema
