import SeriesSchema.Event
import SeriesSchema.FileTree

/-!
# The schema compiler

An external program that is called once for each schema file.  What it answers may depend on the
calls before, on its arguments and on the files it finds, and it may change these.  So a compiler is
a function from the earlier calls and the present one to an answer and a tree; a call carries the
tree on which it is made.

Two compilers are built here: one that answers from a script and leaves the tree alone, and one that
is a program in the tree.  What such a program does once it runs is not known to this library, and
is a parameter.
-/

namespace SeriesSchema

/-- What became of a call. -/
inductive Answer
  | ended (status : Status)
  | notStarted (reason : Reason)
deriving DecidableEq, Repr, Inhabited

/-- A call of the compiler: its arguments, and the files it finds. -/
structure Call where
  arguments : List String
  tree : FileTree

/-- A compiler of schema files. -/
structure Compiler where
  /-- the name of the program, for messages -/
  program : String
  /-- what is told about a call with these arguments before it is made -/
  announce : List String → List Event
  /-- what a call comes to, after the earlier ones, and the files it leaves -/
  start : List Call → Call → Answer × FileTree

namespace Compiler

/-- The arguments for a schema file: where imports are looked for, where to put the generated
classes, and the file. -/
def javaArguments (protoPath javaOut schema : String) : List String :=
  ["--proto_path=" ++ protoPath, "--java_out=" ++ javaOut, schema]

/-- The answer to call number `n` of a script: its last answer repeats, and a script without
answers stands for success. -/
def scriptAnswer (script : List Answer) (n : Nat) : Answer :=
  (script[n]?.or script.getLast?).getD (.ended ⟨some 0⟩)

/-- The compiler that answers from a script, whatever it is called with. -/
def scripted (program : String) (script : List Answer) : Compiler where
  program := program
  announce _ := []
  start earlier call := (scriptAnswer script earlier.length, call.tree)

/-- What becomes of the start of a program with the given content, called with arguments on a
tree. -/
abbrev Behaviour := Content → List String → FileTree → Answer × FileTree

/-- The compiler that is the program at a path, or of a name that is found on the search path. -/
def ofExecutable (behaviour : Behaviour) (searchPath : List String) (path : String) :
    Compiler where
  program := path
  announce arguments := [.running path arguments]
  start _ call :=
    if (path :: call.arguments).any fun a => a.toList.contains '\x00' then
      (.notStarted .nulInArgument, call.tree)
    else
      match call.tree.program searchPath path with
      | .error reason => (.notStarted reason, call.tree)
      | .ok content => behaviour content call.arguments call.tree

end Compiler

end SeriesSchema
