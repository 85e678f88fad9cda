import SeriesSchema.Toml.Document
import SeriesSchema.Toml.Text

/-!
# Reading TOML

The grammar of TOML, version 1.1: lines that define a key, open a table, or open a table of an
array.  A reader gives what it has read and the text behind it, and fails where the text is not
well-formed.

Brackets may stand within brackets, and a key may lead through tables, only so deep: `maxDepth`.

`fuel` bounds the number of steps of the readers of values and lines; the length of the text is
enough, since every step reads a character.  `parse?` hides it.
-/

namespace SeriesSchema.Toml

/-! ## 1. What stands between values -/

/-- The text without blanks at its head. -/
def skipBlanks (cs : List Char) : List Char :=
  cs.dropWhile isLineBlank

/-- The text behind a comment, if one stands at its head; the line end is left. -/
def skipComment? (cs : List Char) : Option (List Char) :=
  match cs with
  | '#' :: cs =>
    let (comment, rest) := cs.span fun c => c != '\n' && c != '\r'
    if comment.all isPlain && (rest.isEmpty || (newline? rest).isSome) then some rest else none
  | cs => some cs

/-- The text behind the end of a line, or the end of the text. -/
def lineEnd? (cs : List Char) : Option (List Char) := do
  let cs ← skipComment? (skipBlanks cs)
  if cs.isEmpty then some [] else newline? cs

/-- The text behind blanks, comments and line ends. -/
def skipFree? (fuel : Nat) (cs : List Char) : Option (List Char) :=
  match fuel with
  | 0 => none
  | fuel + 1 => do
    let cs ← skipComment? (skipBlanks cs)
    match newline? cs with
    | some cs => skipFree? fuel cs
    | none => some cs

/-- The most brackets that may be open at once, and one more than the most tables that a key may
lead through. -/
def maxDepth : Nat := 80

/-! ## 2. Keys -/

/-- Whether a character may stand in a key without quotes. -/
def isBare (c : Char) : Bool :=
  c.isAlphanum || c == '_' || c == '-'

/-- A key without full stops. -/
def simpleKey? (cs : List Char) : Option (String × List Char) :=
  match cs with
  | '"' :: cs => basic? (cs.length + 1) [] cs
  | '\'' :: cs => literal? cs
  | cs =>
    let (key, rest) := cs.span isBare
    if key.isEmpty then none else some (String.ofList key, rest)

/-- A dotted key of at most `count` keys: those that lead to the last one, the last one, and the
text behind the blanks after it. -/
def keys? (count : Nat) (cs : List Char) : Option (List String × String × List Char) :=
  match count with
  | 0 => none
  | count + 1 => do
    let (key, cs) ← simpleKey? (skipBlanks cs)
    match skipBlanks cs with
    | '.' :: cs =>
      let (keys, last, cs) ← keys? count cs
      some (key :: keys, last, cs)
    | cs => some ([], key, cs)

/-- A dotted key. -/
def key? (cs : List Char) : Option (List String × String × List Char) :=
  keys? maxDepth cs

/-! ## 3. Values -/

/-- Whether a character ends a scalar without quotes. -/
def endsScalar (c : Char) : Bool :=
  [' ', '\t', '\n', '\r', ',', ']', '\x7d', '#', '='].contains c

/-- The run of a scalar without quotes, and the text behind it.  Between a date and a time there may
be a blank. -/
def scalarRun (cs : List Char) : List Char × List Char :=
  let (run, rest) := cs.span fun c => !endsScalar c
  match rest with
  | ' ' :: c :: more =>
    if c.isDigit && date? run == some [] then
      let (time, rest) := (c :: more).span fun c => !endsScalar c
      (run ++ ' ' :: time, rest)
    else (run, rest)
  | _ => (run, rest)

mutual

/-- A value, in which `room` more brackets may be open at once. -/
def value? (fuel room : Nat) (cs : List Char) : Option (Value × List Char) :=
  match fuel with
  | 0 => none
  | fuel + 1 =>
    match cs with
    | '[' :: cs =>
      match room with
      | 0 => none
      | room + 1 => do
        let (items, cs) ← items? fuel room cs
        some (.array items, cs)
    | '\x7b' :: cs =>
      match room with
      | 0 => none
      | room + 1 => do
        let (entries, cs) ← inline? fuel room [] cs
        some (.table (entriesValue entries), cs)
    | c :: _ =>
      if c = '"' || c = '\'' then (readString? cs).map fun r => (.string r.1, r.2)
      else
        let (run, rest) := scalarRun cs
        (readScalar? run).map fun v => (v, rest)
    | [] => none

/-- The items of an array, and the text behind its closing bracket. -/
def items? (fuel room : Nat) (cs : List Char) : Option (List Value × List Char) :=
  match fuel with
  | 0 => none
  | fuel + 1 => do
    match ← skipFree? (cs.length + 1) cs with
    | ']' :: cs => some ([], cs)
    | cs =>
      let (item, cs) ← value? fuel room cs
      match ← skipFree? (cs.length + 1) cs with
      | ',' :: cs =>
        let (items, cs) ← items? fuel room cs
        some (item :: items, cs)
      | ']' :: cs => some ([item], cs)
      | _ => none

/-- The entries of an inline table, after those already read, and the text behind its closing
brace. -/
def inline? (fuel room : Nat) (entries : Entries) (cs : List Char) :
    Option (Entries × List Char) :=
  match fuel with
  | 0 => none
  | fuel + 1 => do
    match ← skipFree? (cs.length + 1) cs with
    | '\x7d' :: cs => some (entries, cs)
    | cs =>
      let (keys, key, cs) ← key? cs
      let (value, cs) ← value? fuel room (skipBlanks (← expect? '=' cs))
      let entries ← entries.define keys key value
      match ← skipFree? (cs.length + 1) cs with
      | ',' :: cs => inline? fuel room entries cs
      | '\x7d' :: cs => some (entries, cs)
      | _ => none

end

/-! ## 4. Texts -/

/-- The entries that the lines of a text define, after those already defined; `path` leads to the
table that is open. -/
def lines? (fuel : Nat) (path : List String) (entries : Entries) (cs : List Char) :
    Option Entries :=
  match fuel with
  | 0 => none
  | fuel + 1 => do
    match ← skipFree? (cs.length + 1) cs with
    | [] => some entries
    | '[' :: '[' :: cs =>
      let (keys, key, cs) ← key? cs
      let cs ← expect? ']' (← expect? ']' cs)
      lines? fuel (keys ++ [key]) (← entries.openArray keys key) (← lineEnd? cs)
    | '[' :: cs =>
      let (keys, key, cs) ← key? cs
      let cs ← expect? ']' cs
      lines? fuel (keys ++ [key]) (← entries.openTable keys key) (← lineEnd? cs)
    | cs =>
      let (keys, key, cs) ← key? cs
      let (value, cs) ← value? (cs.length + 1) maxDepth (skipBlanks (← expect? '=' cs))
      lines? fuel path (← entries.defineAt path keys key value) (← lineEnd? cs)

/-- The table that a text stands for, if it is well-formed.  A byte order mark in front means
nothing. -/
def parse? (text : String) : Option Table :=
  let cs := match text.toList with
    | '\ufeff' :: cs => cs
    | cs => cs
  (lines? (cs.length + 1) [] [] cs).map entriesValue

end SeriesSchema.Toml
