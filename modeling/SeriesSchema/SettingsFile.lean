import SeriesSchema.FileTree
import SeriesSchema.Settings
import SeriesSchema.Toml.Reader

/-!
# Settings files

A settings file is a TOML text.  Every key is optional, and a key that is no setting means nothing;
so the settings of a table are read key by key, and what has no key keeps its standard value.

A value of a wrong type makes the file unfit.  If several do, the one whose key comes first in
alphabetical order is reported.

Two kinds of value can be written in more than one way.  A choice between names is a string, or a
table with the name as its only key and an empty table or array as its value.  The table of the
compiler may also be an array of its settings, in the order executable, enabled, policy.
-/

namespace SeriesSchema

open Toml (Table Value)

namespace Toml.Value

/-! ## 1. Values as settings -/

/-- A value that was expected to be something else. -/
def mismatch (v : Value) (wanted : String) : Except String α :=
  .error ("invalid type: " ++ v.description ++ ", expected " ++ wanted)

/-- A value as a text. -/
def toText : Value → Except String String
  | string text => .ok text
  | v => v.mismatch "a string"

/-- A value as a path. -/
def toPath : Value → Except String String
  | string text => .ok text
  | v => v.mismatch "path string"

/-- A value as a choice between yes and no. -/
def toBool : Value → Except String Bool
  | boolean b => .ok b
  | v => v.mismatch "a boolean"

/-- Succeeds on the value that may stand under the name of a choice: nothing. -/
def toNothing : Value → Except String Unit
  | array [] | table [] => .ok ()
  | array _ => .error "expected empty array"
  | table _ => .error "expected empty table"
  | v => .error ("expected table, found " ++ v.typeName)

/-- A value as a choice between names; `offered` lists the names for a message. -/
def toChoice (ofName? : String → Option α) (offered : String) : Value → Except String α
  | string name => choose name
  | table [] => .error "wanted exactly 1 element, found 0 elements"
  | table [(name, v)] => do
    let choice ← choose name
    v.toNothing
    return choice
  | table _ => .error "wanted exactly 1 element, more than 1 element"
  | _ => .error "wanted string or table"
where
  choose (name : String) : Except String α :=
    match ofName? name with
    | some choice => .ok choice
    | none => .error ("unknown variant \x60" ++ name ++ "\x60, expected " ++ offered)

/-- A value as an extractor. -/
def toExtractor : Value → Except String Extractor :=
  toChoice Extractor.ofName? "\x60pattern\x60 or \x60declaration\x60"

/-- A value as a policy. -/
def toPolicy : Value → Except String Policy :=
  toChoice Policy.ofName? "one of \x60ignore\x60, \x60warn\x60, \x60fail\x60"

end Toml.Value

/-! ## 2. Tables as settings -/

/-- The setting under a key, or the standard one if the key is missing. -/
def Toml.Table.setting (t : Table) (key : String) (read : Value → Except String α)
    (standard : α) : Except String α :=
  match t.get? key with
  | some v => read v
  | none => .ok standard

/-- The setting at a place of an array, or the standard one if the array is shorter. -/
def settingAt (items : List Value) (n : Nat) (read : Value → Except String α) (standard : α) :
    Except String α :=
  match items[n]? with
  | some v => read v
  | none => .ok standard

namespace CompilerSettings

/-- The compiler settings of a table. -/
def ofTable (t : Table) : Except String CompilerSettings := do
  let standard : CompilerSettings := {}
  let enabled ← t.setting "enabled" Value.toBool standard.enabled
  let executable ← t.setting "executable" Value.toPath standard.executable
  let onFailure ← t.setting "on_failure" Value.toPolicy standard.onFailure
  return { executable, enabled, onFailure }

/-- The compiler settings of an array. -/
def ofArray (items : List Value) : Except String CompilerSettings := do
  let standard : CompilerSettings := {}
  let executable ← settingAt items 0 Value.toPath standard.executable
  let enabled ← settingAt items 1 Value.toBool standard.enabled
  let onFailure ← settingAt items 2 Value.toPolicy standard.onFailure
  return { executable, enabled, onFailure }

/-- The compiler settings of a value.  A date has parts, but none of them is a setting. -/
def ofValue : Value → Except String CompilerSettings
  | .table t => ofTable t
  | .array items => ofArray items
  | .moment => .ok {}
  | v => v.mismatch "struct CompilerSection"

end CompilerSettings

namespace Settings

/-- The settings of a table. -/
def ofTable (t : Table) : Except String Settings := do
  let compiler ← t.setting "compiler" CompilerSettings.ofValue standard.compiler
  let extractor ← t.setting "extractor" Value.toExtractor standard.extractor
  let fileExtension ← t.setting "file_extension" Value.toText standard.fileExtension
  let inputDir ← t.setting "input_dir" Value.toPath standard.inputDir
  let javaPackage ← t.setting "java_package" Value.toText standard.javaPackage
  let logLevel ← t.setting "log_level" Value.toText standard.logLevel
  let outputJavaDir ← t.setting "output_java_dir" Value.toPath standard.outputJavaDir
  let protoOutDir ← t.setting "proto_out_dir" Value.toPath standard.protoOutDir
  return { inputDir, outputJavaDir, protoOutDir, javaPackage, fileExtension, extractor, logLevel,
           compiler }

/-! ## 3. Texts and files -/

/-- The settings that a text holds.  An integer beyond 64 bits is a fault of the text, but shows
only if something else is at fault too. -/
def parse (text : String) : Except SettingsFault Settings :=
  match Toml.parse? text with
  | none => .error .malformed
  | some t =>
    match ofTable t with
    | .ok s => .ok s
    | .error detail => .error (if Value.fits (.table t) then .unfit detail else .malformed)

/-- The settings in the file at a path. -/
def load (tree : FileTree) (path : String) : Except SettingsFault Settings :=
  match tree.read path with
  | .ok text => parse text
  | .error reason => .error (.unreadable path reason)

end Settings

end SeriesSchema
