import SeriesSchema.Declaration
import SeriesSchema.SeparatedWord

/-!
# Extractors

The two readings of a source text, chosen by name: `pattern` goes by separated words, `declaration`
by the structure of the first type declaration.

The fields of a text are also asked for alone.  There the readings differ: the search by pattern
reports the fields of a text without a type, the other one has no fields without a declaration.
-/

namespace SeriesSchema

/-- A way to read a definition from a source text. -/
inductive Extractor
  | pattern
  | declaration
deriving DecidableEq, Repr, Inhabited

namespace Extractor

/-- The name by which an extractor is chosen and shown. -/
def name : Extractor → String
  | pattern => "pattern"
  | declaration => "declaration"

/-- The extractor of a name. -/
def ofName? (name : String) : Option Extractor :=
  if name = "pattern" then some pattern
  else if name = "declaration" then some declaration
  else none

@[simp] theorem ofName?_name (e : Extractor) : ofName? e.name = some e := by
  cases e <;> rfl

/-- The name of the type that a source text defines. -/
def typeName? : Extractor → String → Option String
  | pattern, source => SeparatedWord.typeName? source.toList
  | declaration, source => (Declaration.first? (tokenize source)).map Declaration.name

/-- The definition that a source text holds. -/
def extract? : Extractor → String → Option Definition
  | pattern, source => SeparatedWord.read? source
  | declaration, source => Declaration.read? source

/-- The fields that a source text holds. -/
def fieldNames : Extractor → String → List String
  | pattern, source => SeparatedWord.fields source.toList
  | declaration, source => ((Declaration.read? source).map Definition.fields).getD []

end Extractor

end SeriesSchema
