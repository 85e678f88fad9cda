import SeriesSchema.Directive
import SeriesSchema.Program

/-!
# The executable

The thin layer between `Program.run` and the system.  It brings the files that a command line can
concern into a tree, runs the program on the tree, prints what it says, and writes the files and
directories of the tree that are new.

It has no way to start other programs, so a schema compiler is always reported as one that could not
be started.  The names it is told by the system are texts.
-/

namespace SeriesSchema.Executable

/-- The path of a location, from the root. -/
def pathOf (place : Location) : String :=
  "/" ++ "/".intercalate (place.reverse.map FileName.display)

/-- What stands at a location of the system, if it is a file or a directory that can be read. -/
def entryAt (place : Location) : IO (Option Entry) := do
  let path := (← IO.currentDir) / pathOf place
  if ← path.isDir then return some .directory
  let .ok bytes ← (IO.FS.readBinFile path).toBaseIO | return none
  return some (.file (.ofBytes bytes) true)

/-- Brings what stands at a location into a tree. -/
def bring (tree : FileTree) (place : Location) : IO FileTree := do
  match ← entryAt place with
  | some entry => return if place = [] then tree else tree.set place entry
  | none => return tree

/-- Brings all that a path passes through into a tree, and gives the location it leads to. -/
def bringPath (tree : FileTree) (path : String) : IO (FileTree × Location) := do
  let mut tree := tree
  let mut place := tree.start path
  for name in Path.parts path do
    if name = ".." then place := place.tail
    else if name ≠ "." then
      place := name :: place
      tree ← bring tree place
  return (tree, place)

/-- Brings what a path leads to into a tree; of a directory, also what it holds. -/
def bringAll (tree : FileTree) (path : String) : IO FileTree := do
  let (tree, place) ← bringPath tree path
  if tree.get? place ≠ some .directory then return tree
  let mut tree := tree
  for item in ← ((← IO.currentDir) / pathOf place).readDir do
    tree ← bring tree (item.fileName :: place)
  return tree

/-- The directories in which programs are looked for. -/
def searchPath : IO (List String) := do
  let path := (← IO.getEnv "PATH").getD "/bin:/usr/bin"
  return (Text.split ':' path.toList).map String.ofList

/-- The tree of the files that a request concerns. -/
def treeFor (tree : FileTree) (searchPath : List String) (request : Request) : IO FileTree := do
  let (config, overrides, file) := match request.command with
    | .generate config overrides => (config, overrides, none)
    | .render file config overrides => (config, overrides, some file)
    | .check config => (config, {}, none)
  let (tree, _) ← bringPath tree (config.getD Program.defaultSettingsFile)
  match Program.loadSettings tree config with
  | .error _ => return tree
  | .ok s =>
    let s := overrides.apply s
    let mut tree := tree
    for path in [s.inputDir, s.protoOutDir] ++ file.toList do
      tree ← bringAll tree path
    for dir in "" :: searchPath do
      tree := (← bringPath tree (Path.join dir s.compiler.executable)).1
    return tree

/-- Writes an entry at its location. -/
def writeEntry : Location × Entry → IO Unit
  | (place, .directory) => IO.FS.createDirAll (pathOf place)
  | (place, .file (.text text) _) => IO.FS.writeFile (pathOf place) text
  | (place, .file (.bytes bytes) _) => IO.FS.writeBinFile (pathOf place) ⟨bytes.bytes.toArray⟩

/-- Writes all that is in one tree and not, in the same way, in another. -/
def writeChanges (before after : FileTree) : IO Unit :=
  for item in after.entries do
    if before.get? item.1 ≠ some item.2 then writeEntry item

/-- What becomes of any program that is to be started. -/
def behaviour : Compiler.Behaviour := fun _ _ tree =>
  (.notStarted (.stated "Operation not supported (os error 95)"), tree)

/-- Runs the program on the system. -/
def run (arguments : List String) : IO UInt32 := do
  let here : Location := (Path.parts (← IO.currentDir).toString).reverse.map FileName.text
  let mut tree := FileTree.empty here
  tree := tree.put here .directory
  let searchPath ← searchPath
  if let .ok request := Request.parse arguments then tree ← treeFor tree searchPath request
  let environment : Environment :=
    ⟨← IO.getEnv "RUST_LOG", Directive.reader, searchPath, behaviour⟩
  let ending := Program.run environment tree arguments
  writeChanges tree ending.tree
  (← IO.getStdout).putStr ending.output
  for line in ending.errors do
    (← IO.getStderr).putStr (line ++ "\n")
  return ending.code.toUInt32

end SeriesSchema.Executable

/-- The command line. -/
def main (arguments : List String) : IO UInt32 :=
  SeriesSchema.Executable.run arguments
