import SeriesSchema.Failure
import SeriesSchema.Overrides

/-!
# Command lines

A command line is a command with its flags, and flags that hold for all commands before or after its
name.  Reading one gives a request, or the first thing that is wrong with it.

The value of a flag may be joined to it, `--name=value`, `-nvalue` or `-n=value`, or be the next
argument, unless that one looks like a flag.  A joined value is checked where it stands.  A value
that is an argument of its own is *held*, and checked only when the next flag or file is read or
the line ends; an argument that cannot be placed at all is reported before it.

1. flags;
2. what can be wrong;
3. reading arguments;
4. whole command lines.
-/

namespace SeriesSchema

/-! ## 1. Flags -/

/-- The flags of all commands. -/
inductive Flag
  | inputDir
  | javaOut
  | protoOut
  | package
  | protoc
  | noCompile
  | extractor
  | onCompilerFailure
  | config
  | logLevel
  | help
  | version
deriving DecidableEq, Repr, Inhabited

namespace Flag

/-- The name of a flag, without the hyphens. -/
def name : Flag → String
  | inputDir => "input-dir"
  | javaOut => "java-out"
  | protoOut => "proto-out"
  | package => "package"
  | protoc => "protoc"
  | noCompile => "no-compile"
  | extractor => "extractor"
  | onCompilerFailure => "on-compiler-failure"
  | config => "config"
  | logLevel => "log-level"
  | help => "help"
  | version => "version"

/-- The letter for a flag, if it has one. -/
def letter? : Flag → Option Char
  | inputDir => some 'i'
  | package => some 'p'
  | extractor => some 'e'
  | config => some 'c'
  | help => some 'h'
  | version => some 'V'
  | javaOut | protoOut | protoc | noCompile | onCompilerFailure | logLevel => none

/-- What the value of a flag is called, if it takes one. -/
def valueName? : Flag → Option String
  | inputDir => some "INPUT_DIR"
  | javaOut => some "JAVA_OUT"
  | protoOut => some "PROTO_OUT"
  | package => some "PACKAGE"
  | protoc => some "PROTOC"
  | extractor => some "EXTRACTOR"
  | onCompilerFailure => some "ON_COMPILER_FAILURE"
  | config => some "CONFIG"
  | logLevel => some "LOG_LEVEL"
  | noCompile | help | version => none

/-- A flag as a message shows it. -/
def shown (f : Flag) : String :=
  "--" ++ f.name ++
    match f.valueName? with
    | some value => " <" ++ value ++ ">"
    | none => ""

/-- Whether the value of a flag is a path, which must not be empty. -/
def isPath : Flag → Bool
  | inputDir | javaOut | protoOut | protoc => true
  | _ => false

end Flag

/-! ## 2. Rejections -/

/-- What is wrong with a command line. -/
inductive Rejection
  | unknownCommand (argument : String)
  | unexpectedArgument (argument : String)
  /-- the file to render is missing -/
  | missingFile
  /-- the command is missing -/
  | missingCommand
  | missingValue (flag : Flag)
  | invalidValue (value : String) (flag : Flag) (fault : SettingsFault)
  | unneededValue (value : String) (flag : Flag)
  | repeated (flag : Flag)
deriving DecidableEq, Repr, Inhabited

/-- The words for a rejection: the first line of them. -/
def Rejection.message : Rejection → String
  | unknownCommand argument => "error: unrecognized subcommand '" ++ argument ++ "'"
  | unexpectedArgument argument => "error: unexpected argument '" ++ argument ++ "' found"
  | missingFile => "error: the following required arguments were not provided:"
  | missingCommand => "error: 'protoseries' requires a subcommand but one was not provided"
  | missingValue flag =>
    "error: a value is required for '" ++ flag.shown ++ "' but none was supplied"
  | invalidValue value flag fault =>
    "error: invalid value '" ++ value ++ "' for '" ++ flag.shown ++ "': " ++
      (Failure.settings fault).message
  | unneededValue value flag =>
    "error: unexpected value '" ++ value ++ "' for '" ++ flag.shown ++
      "' found; no more were expected"
  | repeated flag =>
    "error: the argument '" ++ flag.shown ++ "' cannot be used multiple times"

/-- Why the reading of a command line ends early. -/
inductive Stop
  /-- help was asked for -/
  | help
  /-- the version was asked for -/
  | version
  /-- nothing was asked for -/
  | nothing
  | rejected (rejection : Rejection)
deriving DecidableEq, Repr, Inhabited

/-! ## 3. Arguments -/

/-- A value that is still to come, or still to be checked. -/
inductive Pending
  | nothing
  | awaits (flag : Flag)
  | holds (flag : Flag) (value : String)
deriving DecidableEq, Repr, Inhabited

/-- What has been read: flags with their values, the file, and what is pending. -/
structure Reading where
  given : List (Flag × String) := []
  file : Option String := none
  pending : Pending := .nothing
deriving DecidableEq, Repr, Inhabited

/-- Where arguments stand: which flags are known there, whether a file is expected, and which
commands may follow. -/
structure Scope where
  flags : List Flag
  takesFile : Bool
  commands : List String

namespace Reading

/-- The value that was given for a flag. -/
def value? (r : Reading) (f : Flag) : Option String :=
  r.given.lookup f

/-- What is wrong with a value of a flag. -/
def refusal? (f : Flag) (value : String) : Option Rejection :=
  if f.isPath then if value.isEmpty then some (.missingValue f) else none
  else
    match f with
    | .extractor =>
      if (Extractor.ofName? value).isSome then none
      else some (.invalidValue value f (.unknownExtractor value))
    | .onCompilerFailure =>
      if (Policy.ofName? value).isSome then none
      else some (.invalidValue value f (.unknownPolicy value))
    | _ => none

/-- The reading after a flag with a value, which is empty for a flag that takes none. -/
def take (r : Reading) (f : Flag) (value : String) : Except Stop Reading :=
  if (r.value? f).isSome then .error (.rejected (.repeated f))
  else
    match refusal? f value with
    | some rejection => .error (.rejected rejection)
    | none => .ok { r with given := r.given ++ [(f, value)] }

/-- The reading with nothing pending. -/
def settle (r : Reading) : Except Stop Reading :=
  match r.pending with
  | .nothing => .ok r
  | .awaits f => .error (.rejected (.missingValue f))
  | .holds f value => { r with pending := .nothing }.take f value

/-- The reading after a flag without a value. -/
def raise (r : Reading) (f : Flag) : Except Stop Reading := do
  let r ← r.settle
  match f with
  | .help => .error .help
  | .version => .error .version
  | f => if f.valueName?.isSome then .ok { r with pending := .awaits f } else r.take f ""

/-- The reading after a flag with a value joined to it. -/
def raiseWith (r : Reading) (f : Flag) (value : String) : Except Stop Reading :=
  if f.valueName?.isSome then do (← r.settle).take f value
  else .error (.rejected (.unneededValue value f))

/-- The reading after `--` and a text. -/
def readName (scope : Scope) (r : Reading) (text : List Char) : Except Stop Reading :=
  let (name, rest) := text.span (· ≠ '=')
  match scope.flags.find? fun f => f.name.toList = name with
  | none => .error (.rejected (.unexpectedArgument ("--" ++ String.ofList name)))
  | some f =>
    match rest with
    | _ :: value => r.raiseWith f (String.ofList value)
    | [] => r.raise f

/-- The reading after `-` and letters. -/
def readLetters (scope : Scope) (r : Reading) : List Char → Except Stop Reading
  | [] => .ok r
  | c :: cs =>
    match scope.flags.find? fun f => f.letter? = some c with
    | none => .error (.rejected (.unexpectedArgument (String.ofList ['-', c])))
    | some f =>
      if f.valueName?.isSome then
        match cs with
        | [] => r.raise f
        | '=' :: value => r.raiseWith f (String.ofList value)
        | value => r.raiseWith f (String.ofList value)
      else do readLetters scope (← r.raise f) cs

/-- The reading after an argument that is no flag and no value of one. -/
def readPlain (scope : Scope) (r : Reading) (escaped : Bool) (argument : String) :
    Except Stop Reading :=
  if scope.takesFile && r.file.isNone then do
    let r ← r.settle
    return { r with file := some argument }
  else if scope.commands.isEmpty || (escaped && scope.commands.contains argument) then
    .error (.rejected (.unexpectedArgument argument))
  else .error (.rejected (.unknownCommand argument))

/-- Reads arguments up to a command, and gives the command and what follows it.  After `--`, which
`escaped` says has been read, nothing is a flag or a command. -/
def readAll (scope : Scope) (r : Reading) (escaped : Bool) :
    List String → Except Stop (Reading × Option (String × List String))
  | [] => .ok (r, none)
  | argument :: more =>
    if escaped then do readAll scope (← r.readPlain scope true argument) true more
    else
      match r.pending, argument.toList with
      | _, ['-', '-'] => readAll scope r true more
      | _, '-' :: '-' :: text => do readAll scope (← r.readName scope text) false more
      | _, '-' :: c :: cs => do readAll scope (← r.readLetters scope (c :: cs)) false more
      | .awaits f, _ => readAll scope { r with pending := .holds f argument } false more
      | _, _ =>
        if scope.commands.contains argument then .ok (r, some (argument, more))
        else do readAll scope (← r.readPlain scope false argument) false more

end Reading

/-! ## 4. Command lines -/

/-- What to do. -/
inductive Command
  /-- generate schemas, with the settings file at a path and overrides -/
  | generate (config : Option String) (overrides : Overrides)
  /-- show the schema of the file at a path -/
  | render (file : String) (config : Option String) (overrides : Overrides)
  /-- check the settings file at a path -/
  | check (config : Option String)
deriving DecidableEq, Repr, Inhabited

/-- A command, and the log filter that the command line asks for. -/
structure Request where
  command : Command
  logLevel : Option String
deriving DecidableEq, Repr, Inhabited

namespace Request

/-- The flags that override settings. -/
def overrideFlags : List Flag :=
  [.inputDir, .javaOut, .protoOut, .package, .protoc, .noCompile, .extractor, .onCompilerFailure]

/-- Where arguments before the command stand. -/
def topScope : Scope :=
  ⟨[.logLevel, .help, .version], false, ["generate", "render", "check", "help"]⟩

/-- Where the arguments of a command stand. -/
def commandScope (command : String) : Scope :=
  if command = "check" then ⟨[.config, .logLevel, .help], false, []⟩
  else ⟨[.config, .logLevel, .help] ++ overrideFlags, command = "render", []⟩

/-- The overrides that were given. -/
def overrides (r : Reading) : Overrides where
  inputDir := r.value? .inputDir
  outputJavaDir := r.value? .javaOut
  protoOutDir := r.value? .protoOut
  javaPackage := r.value? .package
  executable := r.value? .protoc
  disabled := (r.value? .noCompile).isSome
  extractor := (r.value? .extractor).bind Extractor.ofName?
  onFailure := (r.value? .onCompilerFailure).bind Policy.ofName?

/-- The command of a name with what was read after it. -/
def commandOf (name : String) (r : Reading) : Except Stop Command :=
  let config := r.value? .config
  if name = "check" then .ok (.check config)
  else if name = "render" then
    match r.file with
    | some file => .ok (.render file config (overrides r))
    | none => .error (.rejected .missingFile)
  else .ok (.generate config (overrides r))

/-- Why the command `help` ends the reading: it names commands to get help on, and commands have
none of their own. -/
def helpStop : List String → Stop
  | [] => .help
  | [argument] => if topScope.commands.contains argument then .help
    else .rejected (.unknownCommand argument)
  | argument :: next :: _ => if topScope.commands.contains argument then
      .rejected (.unknownCommand next)
    else .rejected (.unknownCommand argument)

/-- The request of a command line.  A log filter given after the command counts before one given in
front of it. -/
def parse (arguments : List String) : Except Stop Request := do
  let (top, rest) ← ({} : Reading).readAll topScope false arguments
  match rest with
  | none =>
    let top ← top.settle
    .error (if top.given = [] then .nothing else .rejected .missingCommand)
  | some ("help", more) => .error (helpStop more)
  | some (name, more) =>
    let (r, _) ← ({} : Reading).readAll (commandScope name) false more
    let r ← r.settle
    let command ← commandOf name r
    let top ← top.settle
    return ⟨command, (r.value? .logLevel).or (top.value? .logLevel)⟩

end Request

end SeriesSchema
