import SeriesSchema.FileName
import SeriesSchema.Text.Split

/-!
# Paths

A path is kept and shown as it was written.  Its meaning lies in its *steps*, the parts between
slashes; empty parts mean nothing.  A path with a slash in front starts at the root.

What is written is a text: a path from a settings file or from a command line.  The one place where
other paths come up is a directory that is listed.  A name in it may be no text, and then the path
of the directory and the name is none either.  So a path is a text, or that of a directory and such
a name in it.  Paths that are no text for another reason, as those given to the program by a command
line that is none, are outside this library.

Here are the operations that look at a path alone: joining, the steps, the paths above a path, and
the extension of its last name.  What a path leads to is a matter of the file tree.

1. texts;
2. names and paths that may be no text.
-/

namespace SeriesSchema.Path

open Text

/-! ## 1. Texts -/

/-- Whether a path starts at the root. -/
def isAbsolute (path : String) : Bool :=
  path.toList.head? == some '/'

/-- Whether a text can be the name of a file or a directory: it is not empty and holds no slash. -/
def isName (name : String) : Bool :=
  !name.isEmpty && !name.toList.contains '/'

/-- The path of `name` below `dir`; an absolute name stands for itself. -/
def join (dir name : String) : String :=
  if isAbsolute name || dir.isEmpty then name
  else if dir.toList.getLast? == some '/' then dir ++ name
  else dir ++ "/" ++ name

/-- The non-empty parts of a path between slashes. -/
def parts (path : String) : List String :=
  ((split '/' path.toList).filter (· ≠ [])).map String.ofList

/-- The steps of a path.  A slash at its end asks that what stands before is a directory, as a step
to `.` does. -/
def steps (path : String) : List String :=
  parts path ++ if path.toList.getLast? == some '/' then ["."] else []

/-- The steps without those that stay where they are; one at the front of a relative path is kept,
since such a path differs from the path to nowhere. -/
def essentialParts (path : String) : List String :=
  match parts path with
  | "." :: more => (if isAbsolute path then [] else ["."]) ++ more.filter (· ≠ ".")
  | steps => steps.filter (· ≠ ".")

/-- The last name of a path, if it ends in one and not in a step up. -/
def fileName? (path : String) : Option String :=
  match ((parts path).filter (· ≠ ".")).getLast? with
  | some ".." => none
  | last => last

/-- What stands behind the last stop in a list, if anything stands before it. -/
def behindLast {α : Type} [DecidableEq α] (stop : α) (name : List α) : Option (List α) :=
  match name.reverse.span (· ≠ stop) with
  | (extension, _ :: _ :: _) => some extension.reverse
  | _ => none

/-- What stands behind the last full stop of a name, if anything stands before it. -/
def nameExtension? (name : List Char) : Option (List Char) :=
  behindLast '.' name

/-- The extension of the last name of a path. -/
def extension? (path : String) : Option String :=
  (fileName? path).bind fun name => (nameExtension? name.toList).map String.ofList

end SeriesSchema.Path

namespace SeriesSchema

/-! ## 2. Names and paths that may be no text -/

namespace FileName

/-- Whether something can be the name of a file or a directory: it is not empty and holds no
slash. -/
def isName : FileName → Bool
  | text name => Path.isName name
  | garble name => !name.bytes.contains 0x2F

/-- Whether a name has an extension.  Of a name that is no text, the bytes are compared. -/
def hasExtension (extension : String) : FileName → Bool
  | text name => Path.nameExtension? name.toList == some extension.toList
  | garble name => Path.behindLast 0x2E name.bytes == some (Text.utf8 extension)

end FileName

/-- A path. -/
inductive Path
  | text (path : String)
  /-- a name that is no text, in the directory at a path -/
  | garbled (dir : String) (name : Garble)
deriving DecidableEq, Repr, Inhabited

instance : Coe String Path := ⟨.text⟩

namespace Path

/-- The path of a name in the directory at a path. -/
def child (dir : String) : FileName → Path
  | .text name => .text (join dir name)
  | .garble name => .garbled dir name

/-- What stands before the name in a path of a directory and a name. -/
def front (dir : String) : String :=
  join dir ""

/-- A path as it is shown. -/
def display : Path → String
  | text path => path
  | garbled dir name => front dir ++ Text.lossy name.bytes

/-- Whether a path holds nothing. -/
def isEmpty : Path → Bool
  | text path => path.isEmpty
  | garbled .. => false

/-- How many bytes a path has. -/
def size : Path → Nat
  | text path => path.utf8ByteSize
  | garbled dir name => (front dir).utf8ByteSize + name.bytes.length

/-- Whether a path holds the character that ends paths. -/
def holdsNul : Path → Bool
  | text path => path.toList.contains '\x00'
  | garbled dir name => dir.toList.contains '\x00' || name.bytes.contains 0

/-- Whether the last name of a path has an extension. -/
def hasExtension (extension : String) : Path → Bool
  | text path => extension? path == some extension
  | garbled _ name => (FileName.garble name).hasExtension extension

end Path

end SeriesSchema
