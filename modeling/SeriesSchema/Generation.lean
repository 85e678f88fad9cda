import SeriesSchema.Compiler
import SeriesSchema.Failure
import SeriesSchema.Schema
import SeriesSchema.Text.Bytes

/-!
# Generation

The pass over the files that define types.  It lists them, and handles one after the other, each to
its end: read the file, write its schema, call the compiler.  The first failure ends the pass; what
was done before stays done.

1. which files are read;
2. the document of a file;
3. the call of the compiler, and what the policy makes of its answer;
4. the schema of one file, and of all.

Reading is a function of the tree.  Everything else takes a `State` and gives one back, also when it
fails: the tree, the calls made and the events that happened.
-/

namespace SeriesSchema

/-! ## 1. Inputs -/

/-- Whether a name is hidden: it begins with a full stop.  A name that is no text is asked for no
character, and is never hidden. -/
def isHidden : FileName → Bool
  | .text name => name.toList.head? == some '.'
  | .garble _ => false

/-- Whether a name in the input directory is to be read: that of a file that is not hidden and has
the extension in question.  The file is asked for by its path, so it does not count if the path is
too long. -/
def Settings.selects (s : Settings) (tree : FileTree) (name : FileName) : Bool :=
  !isHidden name && tree.isFile (Path.child s.inputDir name) &&
    s.matchesExtension (Path.child s.inputDir name)

/-- The paths of the files to read, given the entries of the input directory in any order: those
that are selected, in the order of the bytes of their names. -/
def Settings.inputsAmong (s : Settings) (tree : FileTree) (items : List (FileName × Entry)) :
    List Path :=
  (((items.map Prod.fst).filter (s.selects tree)).mergeSort fun a b =>
    a.bytes ≤ b.bytes).map (Path.child s.inputDir)

/-- The paths of the files to read. -/
def discover (s : Settings) (tree : FileTree) : Except Failure (List Path) :=
  match tree.list s.inputDir with
  | .ok items => .ok (s.inputsAmong tree items)
  | .error reason => .error (.unlistable s.inputDir reason)

/-! ## 2. Documents -/

/-- The definition that the file at a path holds. -/
def readDefinition (s : Settings) (tree : FileTree) (path : Path) : Except Failure Definition :=
  match tree.read path with
  | .error reason => .error (.unreadable path reason)
  | .ok source =>
    match s.extractor.extract? source with
    | some d => .ok d
    | none => .error (.noDeclaration path)

/-- The schema of the file at a path. -/
def renderFile (s : Settings) (tree : FileTree) (path : Path) : Except Failure Document :=
  (readDefinition s tree path).map (Document.ofDefinition · s.javaPackage)

/-- What is told about the reading of a file. -/
def readingEvents (s : Settings) (tree : FileTree) (path : Path) : List Event :=
  match readDefinition s tree path with
  | .ok d => [.extracted s.extractor.name path.display d.name d.fields.length]
  | .error _ => []

/-! ## 3. Compiling -/

/-- What the compiler made of a schema file. -/
inductive Outcome
  /-- compilation is disabled -/
  | skipped
  | succeeded
  | failed (status : Status)
  | unavailable (reason : Reason)
deriving DecidableEq, Repr, Inhabited

/-- What a pass has come to: the files, the calls made and the events, each in order. -/
structure State where
  tree : FileTree
  calls : List Call
  events : List Event

namespace State

/-- The state after more events. -/
def tell (st : State) (events : List Event) : State :=
  { st with events := st.events ++ events }

/-- The state in which a pass begins. -/
def initial (tree : FileTree) : State := ⟨tree, [], []⟩

end State

/-- What the policy makes of an answer: whether the pass goes on, and what is told. -/
def judge (s : Settings) (program schema : String) :
    Answer → Except Failure Outcome × List Event
  | .ended status =>
    if status.isSuccess then (.ok .succeeded, [])
    else
      match s.compiler.onFailure with
      | .fail => (.error (.compilerFailed schema status), [])
      | .warn => (.ok (.failed status), [.compilerFailed schema status])
      | .ignore => (.ok (.failed status), [])
  | .notStarted reason =>
    match s.compiler.onFailure with
    | .fail => (.error (.compilerUnavailable program reason), [])
    | .warn => (.ok (.unavailable reason), [.compilerUnavailable program reason])
    | .ignore => (.ok (.unavailable reason), [])

/-- Calls the compiler for a schema file, unless compilation is disabled. -/
def compile (s : Settings) (c : Compiler) (schema : String) (st : State) :
    Except Failure Outcome × State :=
  if s.compiler.enabled then
    let arguments := Compiler.javaArguments s.protoOutDir s.outputJavaDir schema
    let call : Call := ⟨arguments, st.tree⟩
    let (answer, tree) := c.start st.calls call
    let (verdict, events) := judge s c.program schema answer
    (verdict, ⟨tree, st.calls ++ [call], st.events ++ c.announce arguments ++ events⟩)
  else (.ok .skipped, st)

/-! ## 4. The pass -/

/-- What became of one file. -/
structure Generated where
  type : String
  schema : String
  outcome : Outcome
deriving DecidableEq, Repr, Inhabited

/-- Writes a document into the directory for schema files, which is made if need be; the path of the
file comes back.  The tree is given also on failure, since directories may have been made. -/
def writeSchema (s : Settings) (d : Document) (tree : FileTree) :
    Except Failure String × FileTree :=
  match tree.createDirectories s.protoOutDir with
  | (.error reason, tree) => (.error (.unwritable s.protoOutDir reason), tree)
  | (.ok (), tree) =>
    let path := Path.join s.protoOutDir d.fileName
    match tree.write path d.render with
    | .error reason => (.error (.unwritable path reason), tree)
    | .ok tree => (.ok path, tree)

/-- Generates the schema of the file at a path. -/
def generateFile (s : Settings) (c : Compiler) (path : Path) (st : State) :
    Except Failure Generated × State :=
  match renderFile s st.tree path with
  | .error failure => (.error failure, st)
  | .ok document =>
    let st := st.tell (readingEvents s st.tree path)
    match writeSchema s document st.tree with
    | (.error failure, tree) => (.error failure, { st with tree })
    | (.ok schema, tree) =>
      let st := { st with tree }.tell [.wrote path.display schema document.fields.length]
      match compile s c schema st with
      | (.error failure, st) => (.error failure, st)
      | (.ok outcome, st) => (.ok ⟨document.record, schema, outcome⟩, st)

/-- Generates the schemas of the files at the paths, one after the other, up to the first
failure. -/
def generateFiles (s : Settings) (c : Compiler) :
    List Path → State → Except Failure (List Generated) × State
  | [], st => (.ok [], st)
  | path :: paths, st =>
    match generateFile s c path st with
    | (.error failure, st) => (.error failure, st)
    | (.ok generated, st) =>
      match generateFiles s c paths st with
      | (.error failure, st) => (.error failure, st)
      | (.ok more, st) => (.ok (generated :: more), st)

/-- Generates the schemas of all files of the input directory. -/
def generateSchemas (s : Settings) (c : Compiler) (st : State) :
    Except Failure (List Generated) × State :=
  match discover s st.tree with
  | .error failure => (.error failure, st)
  | .ok paths =>
    generateFiles s c paths (st.tell [.listed s.inputDir paths.length s.extractor.name])

end SeriesSchema
