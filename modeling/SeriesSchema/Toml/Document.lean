import SeriesSchema.Toml.Value

/-!
# TOML documents under construction

A TOML text defines its table piece by piece, and the rules about what may be defined twice look at
how a table came about.

* A table named by a header is defined once; its subtables may have headers of their own, before it
  or after it.
* A table that a dotted key makes may be extended by dotted keys, and by headers of subtables, but
  not by a header of its own.
* An array of tables is extended by its header, and a path through it leads to its last table.
* A value, inline tables and arrays of values included, is not extended at all.

A `Node` therefore keeps the origin of each table until the text is read; `Node.value` forgets it.
-/

namespace SeriesSchema.Toml

/-- How a table came about. -/
inductive Origin
  /-- a header of a subtable implied it -/
  | implied
  /-- a dotted key made it -/
  | dotted
  /-- its own header defined it, or it is the table of the whole text -/
  | header
deriving DecidableEq, Repr, Inhabited

/-- A part of a document under construction. -/
inductive Node
  | leaf (value : Value)
  | table (origin : Origin) (entries : List (String × Node))
  /-- an array of tables, the last one first -/
  | tables (items : List (List (String × Node)))
deriving Inhabited

/-- The entries of a table under construction. -/
abbrev Entries := List (String × Node)

mutual

/-- The value of a node. -/
def Node.value : Node → Value
  | .leaf v => v
  | .table _ entries => .table (entriesValue entries)
  | .tables items => .array (tablesValue items).reverse

/-- The table of entries. -/
def entriesValue : Entries → Table
  | [] => []
  | (key, node) :: more => (key, node.value) :: entriesValue more

/-- The tables of an array of tables, in its own order. -/
def tablesValue : List Entries → List Value
  | [] => []
  | entries :: more => .table (entriesValue entries) :: tablesValue more

end

namespace Entries

/-- The entries with `node` under `key`, in its old position if it had one, else at the end. -/
def put (key : String) (node : Node) : Entries → Entries
  | [] => [(key, node)]
  | (k, n) :: more => if k = key then (k, node) :: more else (k, n) :: put key node more

/-- Applies a change at the end of a path of keys.  Tables that are missing on the way are made;
`byKey` says that a dotted key leads there, and not a header. -/
def change (byKey : Bool) (edit : Origin → Entries → Option Entries) :
    List String → Origin → Entries → Option Entries
  | [], origin, entries => edit origin entries
  | key :: keys, _, entries =>
    match entries.lookup key with
    | none =>
      let origin := if byKey then .dotted else .implied
      (change byKey edit keys origin []).map fun sub => put key (.table origin sub) entries
    | some (.table origin sub) =>
      if byKey && origin == .header then none
      else (change byKey edit keys origin sub).map fun sub => put key (.table origin sub) entries
    | some (.tables (last :: earlier)) =>
      (change byKey edit keys .header last).map fun last =>
        put key (.tables (last :: earlier)) entries
    | some _ => none

/-- Defines a value under a dotted key of a table: `keys`, and last of all `key`. -/
def define (keys : List String) (key : String) (value : Value) (entries : Entries) :
    Option Entries :=
  change true
    (fun origin entries =>
      if (entries.lookup key).isSome ∨ (keys ≠ [] ∧ origin ≠ .dotted) then none
      else some (put key (.leaf value) entries))
    keys .header entries

/-- Defines a value under a dotted key of the table that `path` leads to. -/
def defineAt (path keys : List String) (key : String) (value : Value) (entries : Entries) :
    Option Entries :=
  change false (fun _ entries => define keys key value entries) path .header entries

/-- Opens the table with the header `path` and, last of all, `key`. -/
def openTable (path : List String) (key : String) (entries : Entries) : Option Entries :=
  change false
    (fun _ entries =>
      match entries.lookup key with
      | none => some (put key (.table .header []) entries)
      | some (.table .implied sub) => some (put key (.table .header sub) entries)
      | some _ => none)
    path .header entries

/-- Opens a new table in the array of tables with the header `path` and, last of all, `key`. -/
def openArray (path : List String) (key : String) (entries : Entries) : Option Entries :=
  change false
    (fun _ entries =>
      match entries.lookup key with
      | none => some (put key (.tables [[]]) entries)
      | some (.tables items) => some (put key (.tables ([] :: items)) entries)
      | some _ => none)
    path .header entries

end Entries

end SeriesSchema.Toml
