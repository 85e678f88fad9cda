import SeriesSchema.CommandLine
import SeriesSchema.Report
import SeriesSchema.SettingsFile
import SeriesSchema.Generation

/-!
# The program

From a command line, an environment and a tree to what is printed, what the program ends with and
the tree that it leaves.  Only `generate` changes the tree.

The steps of `generate` and `render` come in a fixed order, and the first that fails ends the
program: load the settings and apply the overrides, build the log filter, check the settings, do the
work.  `check` loads the settings and checks them, and knows neither overrides nor a log.
-/

namespace SeriesSchema

/-- What the program is run with, besides its arguments. -/
structure Environment where
  /-- the log filter in the environment -/
  logFilter : Option String
  /-- what reads log filters -/
  readFilter : FilterReader
  /-- the directories in which programs are looked for that are given by a name alone -/
  searchPath : List String
  /-- what becomes of programs that are started -/
  behaviour : Compiler.Behaviour

/-- What the program prints, what it ends with, and the tree that it leaves. -/
structure Ending where
  code : Nat
  output : String
  errors : List String
  tree : FileTree

namespace Ending

/-- The ending of a command that went well. -/
def success (output : String) (errors : List String) (tree : FileTree) : Ending :=
  ⟨0, output, errors, tree⟩

/-- The ending of a command that failed, after some output and some lines of the log. -/
def failure (output : String) (errors : List String) (r : Report) (tree : FileTree) : Ending :=
  ⟨1, output, errors ++ r.lines, tree⟩

end Ending

namespace Program

/-! ## 1. Settings -/

/-- The settings file that is used when none is named. -/
def defaultSettingsFile : String := "protoseries.toml"

/-- The settings file to use, if there is one. -/
def settingsFile? (tree : FileTree) (config : Option String) : Option String :=
  config.or (if tree.isFile defaultSettingsFile then some defaultSettingsFile else none)

/-- The settings to begin with: those of the settings file, else the standard ones. -/
def loadSettings (tree : FileTree) (config : Option String) : Except Report Settings :=
  match settingsFile? tree config with
  | none => .ok .standard
  | some path =>
    match Settings.load tree path with
    | .ok s => .ok s
    | .error fault =>
      .error (.during ("Failed to load configuration: " ++ path) (.settings fault))

/-- The settings and the log filter of a command that does work. -/
def prepare (env : Environment) (tree : FileTree) (config : Option String) (overrides : Overrides)
    (logLevel : Option String) : Except Report (Settings × LogFilter) :=
  match loadSettings tree config with
  | .error r => .error r
  | .ok s =>
    let s := overrides.apply s
    match LogFilter.choose env.readFilter env.logFilter logLevel s.logLevel with
    | .error (level, fault) => .error (.badFilter level fault)
    | .ok filter =>
      match s.fault? with
      | some fault => .error (.during "Invalid configuration" (.settings fault))
      | none => .ok (s, filter)

/-- The lines of the log for some events. -/
def logLines (filter : LogFilter) (events : List Event) : List String :=
  (events.filter filter.shows).flatMap fun e => linesOf e.line

/-! ## 2. Commands -/

/-- The summary of what became of a file. -/
def summary (g : Generated) : String :=
  match g.outcome with
  | .skipped => "✓ " ++ g.schema ++ " (not compiled)"
  | .succeeded => "✓ " ++ g.schema ++ " (compiled)"
  | .failed status => "! " ++ g.schema ++ " (protoc failed: " ++ status.message ++ ")"
  | .unavailable reason => "! " ++ g.schema ++ " (protoc unavailable: " ++ reason.message ++ ")"

/-- Generates the schemas of the input directory. -/
def generate (env : Environment) (tree : FileTree) (config : Option String)
    (overrides : Overrides) (logLevel : Option String) : Ending :=
  match prepare env tree config overrides logLevel with
  | .error r => .failure "" [] r tree
  | .ok (s, filter) =>
    let compiler := Compiler.ofExecutable env.behaviour env.searchPath s.compiler.executable
    let (result, st) := generateSchemas s compiler (.initial tree)
    let opening := "Generating schemas from: " ++ s.inputDir ++ "\n"
    let log := logLines filter st.events
    match result with
    | .error failure =>
      .failure opening log (.during "Schema generation failed" failure) st.tree
    | .ok generated =>
      let summaries := String.join (generated.map fun g => summary g ++ "\n")
      let closing := "\nGenerated " ++ toString generated.length ++ " schema(s)\n"
      .success (opening ++ summaries ++ closing) log st.tree

/-- Shows the schema of a file. -/
def render (env : Environment) (tree : FileTree) (file : String) (config : Option String)
    (overrides : Overrides) (logLevel : Option String) : Ending :=
  match prepare env tree config overrides logLevel with
  | .error r => .failure "" [] r tree
  | .ok (s, filter) =>
    match renderFile s tree file with
    | .error failure => .failure "" [] (.during ("Failed to render " ++ file) failure) tree
    | .ok document =>
      .success document.render (logLines filter (readingEvents s tree file)) tree

/-- One line for each setting that matters. -/
def description (s : Settings) : List String :=
  ["✓ Input: " ++ s.inputDir ++ "/*." ++ s.fileExtension,
   "✓ Proto output: " ++ s.protoOutDir,
   "✓ Java output: " ++ s.outputJavaDir,
   "✓ Java package: " ++ s.javaPackage,
   "✓ Extractor: " ++ s.extractor.name,
   "✓ Compiler: " ++
     if s.compiler.enabled then
       s.compiler.executable ++ " (on failure: " ++ s.compiler.onFailure.name ++ ")"
     else "disabled"]

/-- Checks the settings. -/
def check (tree : FileTree) (config : Option String) : Ending :=
  let opening := "Checking configuration: " ++
    config.getD (defaultSettingsFile ++ " (or defaults)") ++ "\n"
  match loadSettings tree config with
  | .error r => .failure opening [] r tree
  | .ok s =>
    match s.fault? with
    | some fault => .failure opening [] (.ofFailure (.settings fault)) tree
    | none =>
      let hint := if tree.isDirectory s.inputDir then [] else ["! input_dir does not exist yet"]
      let lines := description s ++ hint
      .success (opening ++ String.join (lines.map (· ++ "\n")) ++ "\nConfiguration is valid!\n") []
        tree

/-! ## 3. Command lines -/

/-- The first line of the help, which says what the program is for. -/
def about : String := "Generate proto2 time-series schemas from Java types"

/-- The help. -/
def help : List String :=
  [about, "",
   "Usage: protoseries [OPTIONS] <COMMAND>", "",
   "Commands:",
   "  generate  Generate a schema for every definition file and compile it with protoc",
   "  render    Print the schema for one definition file without writing anything",
   "  check     Validate a protoseries.toml configuration",
   "  help      Print this message or the help of the given subcommand(s)"]

/-- The program that carries out a request. -/
def carryOut (env : Environment) (tree : FileTree) (request : Request) : Ending :=
  match request.command with
  | .generate config overrides => generate env tree config overrides request.logLevel
  | .render file config overrides => render env tree file config overrides request.logLevel
  | .check config => check tree config

/-- The program. -/
def run (env : Environment) (tree : FileTree) (arguments : List String) : Ending :=
  match Request.parse arguments with
  | .ok request => carryOut env tree request
  | .error .help => .success (String.join (help.map (· ++ "\n"))) [] tree
  | .error .version => .success "protoseries 0.1.0\n" [] tree
  | .error .nothing => ⟨2, "", help, tree⟩
  | .error (.rejected rejection) => ⟨2, "", linesOf rejection.message, tree⟩

end Program

end SeriesSchema
