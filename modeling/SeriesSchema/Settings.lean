import SeriesSchema.Extractor
import SeriesSchema.Path
import SeriesSchema.Reason
import SeriesSchema.Text.Word

/-!
# Settings

What a run goes by, the values that hold when nothing is set, and the conditions under which
settings are fit for a run.

Settings are checked condition by condition, and the first that fails is reported:
`Settings.fault?`.  A package name is a sequence of identifiers with full stops between them.
-/

namespace SeriesSchema

/-! ## 1. The settings -/

/-- What to do when the compiler fails or cannot be started. -/
inductive Policy
  | ignore
  | warn
  | fail
deriving DecidableEq, Repr, Inhabited

namespace Policy

/-- The name by which a policy is chosen and shown. -/
def name : Policy → String
  | ignore => "ignore"
  | warn => "warn"
  | fail => "fail"

/-- The policy of a name. -/
def ofName? (name : String) : Option Policy :=
  if name = "ignore" then some ignore
  else if name = "warn" then some warn
  else if name = "fail" then some fail
  else none

@[simp] theorem ofName?_name (p : Policy) : ofName? p.name = some p := by
  cases p <;> rfl

end Policy

/-- What concerns the compiler of schema files. -/
structure CompilerSettings where
  executable : String := "/usr/local/bin/protoc"
  enabled : Bool := true
  onFailure : Policy := .warn
deriving DecidableEq, Repr, Inhabited

/-- What a run goes by. -/
structure Settings where
  /-- the directory of the files that define types -/
  inputDir : String := "./crypto-strats-server/src/main/java/io/hbar/fx/data/series/types"
  /-- the directory in which the compiler puts what it generates -/
  outputJavaDir : String := "./crypto-strats-server/src/main/java"
  /-- the directory of the schema files -/
  protoOutDir : String := "."
  javaPackage : String := "io.hbar.protobuf.schema"
  /-- the extension of the files that define types, without its full stop -/
  fileExtension : String := "java"
  extractor : Extractor := .pattern
  logLevel : String := "info"
  compiler : CompilerSettings := {}
deriving DecidableEq, Repr, Inhabited

/-- The settings that hold when nothing is set. -/
def Settings.standard : Settings := {}

/-! ## 2. Faults -/

/-- The settings that are paths and must not be empty. -/
inductive PathSetting
  | inputDir
  | outputJavaDir
  | protoOutDir
  | executable
deriving DecidableEq, Repr, Inhabited

/-- The key under which a path stands in a settings file. -/
def PathSetting.key : PathSetting → String
  | inputDir => "input_dir"
  | outputJavaDir => "output_java_dir"
  | protoOutDir => "proto_out_dir"
  | executable => "compiler.executable"

/-- What is wrong with settings, or with the file that they come from. -/
inductive SettingsFault
  | emptyPath (setting : PathSetting)
  | emptyExtension
  | dottedExtension (extension : String)
  | badPackage (package : String)
  | unknownExtractor (name : String)
  | unknownPolicy (name : String)
  /-- the settings file could not be read -/
  | unreadable (path : String) (reason : Reason)
  /-- the settings file is not well-formed -/
  | malformed
  /-- the settings file is well-formed, but a value in it does not fit -/
  | unfit (detail : String)
  /-- a fault in someone else's words -/
  | stated (text : String)
deriving DecidableEq, Repr, Inhabited

/-- The words for a fault.  Of a fault in the text of a settings file they say no more than that
there is one. -/
def SettingsFault.message : SettingsFault → String
  | emptyPath setting => setting.key ++ " cannot be empty"
  | emptyExtension => "file_extension cannot be empty"
  | dottedExtension extension => "file_extension should not start with a dot: " ++ extension
  | badPackage package => "invalid java_package: '" ++ package ++ "'"
  | unknownExtractor name =>
    "unknown extractor '" ++ name ++ "' (expected pattern or declaration)"
  | unknownPolicy name =>
    "unknown compiler failure policy '" ++ name ++ "' (expected ignore, warn or fail)"
  | unreadable path reason => "failed to read " ++ path ++ ": " ++ reason.message
  | malformed | unfit _ => "TOML parse error"
  | stated text => text

/-! ## 3. The conditions -/

/-- Whether a text is an identifier: a letter, `_` or `$`, and any letters, numbers, `_` or `$`. -/
def isIdentifier : List Char → Bool
  | [] => false
  | c :: cs => Text.isIdentifierStart c && cs.all Text.isIdentifierChar

/-- Whether a text is a sequence of identifiers with full stops between them. -/
def isPackage (package : String) : Bool :=
  (Text.split '.' package.toList).all isIdentifier

namespace Settings

/-- The first of the conditions on settings that fails. -/
def fault? (s : Settings) : Option SettingsFault :=
  if s.inputDir.isEmpty then some (.emptyPath .inputDir)
  else if s.outputJavaDir.isEmpty then some (.emptyPath .outputJavaDir)
  else if s.protoOutDir.isEmpty then some (.emptyPath .protoOutDir)
  else if s.compiler.executable.isEmpty then some (.emptyPath .executable)
  else if s.fileExtension.isEmpty then some .emptyExtension
  else if s.fileExtension.toList.head? = some '.' then some (.dottedExtension s.fileExtension)
  else if !isPackage s.javaPackage then some (.badPackage s.javaPackage)
  else none

/-- Whether a path has the extension of the files that define types. -/
def matchesExtension (s : Settings) (path : Path) : Bool :=
  path.hasExtension s.fileExtension

end Settings

end SeriesSchema
