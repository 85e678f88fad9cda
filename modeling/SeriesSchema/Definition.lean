/-!
# Type definitions

What is read from a source text: the name of a type and the names of its fields, in source order.
-/

namespace SeriesSchema

/-- A type and its fields. -/
structure Definition where
  name : String
  fields : List String
deriving DecidableEq, Repr, Inhabited

/-- The name of the time series of a type. -/
def Definition.seriesName (d : Definition) : String :=
  d.name ++ "Series"

end SeriesSchema
