import SeriesSchema.Definition
import SeriesSchema.Text.Lowercase

/-!
# Schemas

A schema document describes the time series of a type: a container message that holds records,
each of which has a timestamp and one number for each field of the type.  Its fields are the
timestamp, with ordinal 1, and the fields of the type in lower case, with the ordinals from 2 on.

`Document.render` writes a document as the text of a schema file.
-/

namespace SeriesSchema

/-- The type of a field of a record. -/
inductive FieldType
  | int32
  | double
deriving DecidableEq, Repr, Inhabited

/-- The name of a field type in a schema file. -/
def FieldType.name : FieldType → String
  | int32 => "int32"
  | double => "double"

/-- A field of a record. -/
structure Field where
  type : FieldType
  name : String
  ordinal : Nat
deriving DecidableEq, Repr, Inhabited

/-- The schema of a time series. -/
structure Document where
  javaPackage : String
  container : String
  record : String
  fields : List Field
deriving DecidableEq, Repr, Inhabited

namespace Document

/-! ## 1. The document of a definition -/

/-- The field that gives the time of a record. -/
def timestamp : Field := ⟨.int32, "timestamp", 1⟩

/-- A field for each name, in lower case, with ordinals from `first` on. -/
def numbered (first : Nat) : List String → List Field
  | [] => []
  | name :: names => ⟨.double, Text.lowercase name, first⟩ :: numbered (first + 1) names

/-- The document of a definition. -/
def ofDefinition (d : Definition) (javaPackage : String) : Document where
  javaPackage
  container := d.seriesName
  record := d.name
  fields := timestamp :: numbered 2 d.fields

/-- The name of the class that holds what is generated from the schema. -/
def outerClassname (d : Document) : String :=
  d.container ++ "Schema"

/-- The name of the schema file. -/
def fileName (d : Document) : String :=
  d.container ++ ".proto"

/-! ## 2. The text of a schema file -/

/-- The line of a field. -/
def fieldLine (f : Field) : String :=
  "\t\trequired " ++ f.type.name ++ " " ++ f.name ++ " = " ++ toString f.ordinal ++ ";\n"

/-- The lines of the fields, in order. -/
def fieldLines : List Field → String
  | [] => ""
  | f :: fs => fieldLine f ++ fieldLines fs

/-- The text of a schema file; it does not end in a line end. -/
def render (d : Document) : String :=
  "syntax = \"proto2\";\n" ++
  "option java_package = \"" ++ d.javaPackage ++ "\";\n" ++
  "option java_outer_classname = \"" ++ d.outerClassname ++ "\";\n\n" ++
  "message " ++ d.container ++ " \x7b\n\n" ++
  "\tmessage " ++ d.record ++ " \x7b\n\n" ++
  fieldLines d.fields ++
  "\n\t\x7d\n\n" ++
  "\trepeated " ++ d.record ++ " series = 1;\n\n\x7d"

end Document

end SeriesSchema
