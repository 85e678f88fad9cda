import SeriesSchema.Binary64
import SeriesSchema.Text.Quoted

/-!
# TOML values

What a TOML text stands for: a table of keys and values.  Of a date or a time nothing is kept but
that it is one, since no setting takes one.
-/

namespace SeriesSchema.Toml

/-- A TOML value. -/
inductive Value
  | string (text : String)
  | integer (n : Int)
  | float (x : Binary64)
  | boolean (b : Bool)
  /-- a date, a time, or both -/
  | moment
  | array (items : List Value)
  | table (entries : List (String × Value))
deriving Repr, Inhabited

/-- A TOML table: keys, of which none occurs twice, and their values. -/
abbrev Table := List (String × Value)

/-- The value of a key. -/
def Table.get? (t : Table) (key : String) : Option Value :=
  List.lookup key t

namespace Value

/-- The name of the type of a value. -/
def typeName : Value → String
  | string _ => "string"
  | integer _ => "integer"
  | float _ => "float"
  | boolean _ => "boolean"
  | moment => "datetime"
  | array _ => "array"
  | table _ => "table"

/-- How a value is called where another was expected. -/
def description : Value → String
  | string text => "string " ++ Text.quoted text
  | integer n => "integer \x60" ++ toString n ++ "\x60"
  | float x => "floating point \x60" ++ x.text ++ "\x60"
  | boolean b => "boolean \x60" ++ toString b ++ "\x60"
  | moment | table _ => "map"
  | array _ => "sequence"

mutual

/-- Whether every integer in a value fits into 64 bits, sign included. -/
def fits : Value → Bool
  | integer n => -(2 ^ 63) ≤ n && n < 2 ^ 63
  | array items => allFit items
  | table entries => allEntriesFit entries
  | _ => true

/-- Whether every integer in some values fits into 64 bits. -/
def allFit : List Value → Bool
  | [] => true
  | v :: vs => fits v && allFit vs

/-- Whether every integer in a table fits into 64 bits. -/
def allEntriesFit : List (String × Value) → Bool
  | [] => true
  | (_, v) :: vs => fits v && allEntriesFit vs

end

end Value

end SeriesSchema.Toml
