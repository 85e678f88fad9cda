import SeriesSchema.LogFilter
import SeriesSchema.Text.Bytes
import SeriesSchema.Text.Split

/-!
# Directives

A reader of log filters, for the executable and for runs on fixed inputs.  No statement about all
runs of the program is about this reader.

A log filter is a list of directives with commas between them.  A directive sets the level up to
which events are shown, for the parts of the program whose names begin with its target, or for all.
For an event the most specific directive counts, which is the one with the longest target.

A directive may also name a *span* in brackets, or a field, or the value of a field, in braces
within the brackets.  Spans and values of fields concern a context that events of this program never
have, so such a directive shows nothing; but a filter that has one is not empty, and an empty filter
shows errors.

The value of a field is a pattern.  Patterns are read as far as they are plain: one with
repetitions, groups, classes or escapes is refused, well-formed or not.
-/

namespace SeriesSchema

namespace FilterFault

/-- A level is none of the levels. -/
def badLevel : FilterFault :=
  let text := "error parsing level filter: expected one of \"off\", \"error\", \"warn\", " ++
    "\"info\", \"debug\", \"trace\", or a number 0-5"
  ⟨[text, text]⟩

/-- A directive does not have the form of one. -/
def badDirective : FilterFault :=
  ⟨["invalid filter directive"]⟩

/-- The value of a field is no pattern that is read. -/
def badField : FilterFault :=
  ⟨["invalid field filter"]⟩

end FilterFault

/-- A directive: which events it concerns, and the rank up to which it shows them. -/
structure Directive where
  target : Option String
  /-- a span is named -/
  inSpan : Bool := false
  /-- a field that an event has to have, and whether a value is asked of it -/
  field? : Option (String × Bool) := none
  rank : Nat
deriving DecidableEq, Repr, Inhabited

/-! ## 1. Levels -/

/-- The rank beyond which there is nothing: everything is shown. -/
def allRanks : Nat := Level.trace.rank

/-- The rank of a level that is written as a number, with or without a plus sign. -/
def rankOfNumber? (text : List Char) : Option Nat :=
  let ds := match text with
    | '+' :: ds => ds
    | ds => ds
  if ds.isEmpty || !ds.all Char.isDigit then none
  else
    let n := ds.foldl (fun n c => n * 10 + (c.toNat - '0'.toNat)) 0
    if n ≤ allRanks then some n else none

/-- The rank of a level: its number, or its name in letters of any case. -/
def rankOf? (text : List Char) : Option Nat :=
  (rankOfNumber? text).or <|
    ([("off", 0), ("error", 1), ("warn", 2), ("info", 3), ("debug", 4), ("trace", 5)] :
      List (String × Nat)).lookup (String.ofList (text.map Char.toLower))

/-- The rank behind an equals sign; nothing there means everything. -/
def rankAfterEquals (text : List Char) : Except FilterFault Nat :=
  if text.isEmpty then .ok allRanks
  else
    match rankOf? text with
    | some rank => .ok rank
    | none => .error .badLevel

/-! ## 2. Places

The parts of a directive are found in its text without the blanks at its ends, and are cut out of
the text as it is, at the places with the same numbers.  Places are counted in bytes. -/

/-- A text without the blanks at its ends. -/
def trimmed (text : List Char) : List Char :=
  ((text.dropWhile Text.isBlank).reverse.dropWhile Text.isBlank).reverse

/-- How many bytes some characters have. -/
def bytesOf (text : List Char) : Nat :=
  text.foldl (fun n c => n + c.utf8Size) 0

/-- The first bytes of a text, and what follows.  No cut is made inside a character. -/
def cutAt : Nat → List Char → Except FilterFault (List Char × List Char)
  | 0, text => .ok ([], text)
  | _ + 1, [] => .error .badDirective
  | n + 1, c :: cs => do
    if n + 1 < c.utf8Size then .error .badDirective
    else
      let (before, behind) ← cutAt (n + 1 - c.utf8Size) cs
      return (c :: before, behind)

/-- The part of a text that begins at a place and has so many bytes. -/
def slice (text : List Char) (place size : Nat) : Except FilterFault (List Char) := do
  return (← cutAt size (← cutAt place text).2).1

/-! ## 3. Directives -/

/-- Whether a pattern is plain. -/
def isPlainPattern (text : List Char) : Bool :=
  text.all fun c => c ∉ ['*', '+', '?', '(', ')', '[', ']', '\x7b', '\x7d', '\\']

/-- The name of a field, and whether a value follows it. -/
def fieldMatch (text : List Char) : Except FilterFault (String × Bool) :=
  match Text.split '=' text with
  | name :: value :: _ =>
    if isPlainPattern value then .ok (String.ofList name, true) else .error .badField
  | _ => .ok (String.ofList text, false)

/-- The rank of a directive behind its bracket; `rest` is what follows the place. -/
def rankBehind (text : List Char) (place : Nat) (rest : List Char) : Except FilterFault Nat :=
  match rest with
  | [] => .ok allRanks
  | '=' :: _ => do rankAfterEquals (← cutAt (place + 1) text).2
  | _ => .error .badDirective

/-- A directive with a bracket.  The bracket ends at the place, and `rest` follows it. -/
def bracketDirective (text : List Char) (target : Option String) (place : Nat)
    (rest : List Char) : Except FilterFault Directive := do
  let (span, behind) := rest.span fun c => c ≠ ']' ∧ c ≠ '\x7b'
  let name ← slice text place (bytesOf span)
  let place := place + bytesOf span + 1
  match behind with
  | ']' :: rest => return { target, inSpan := true, rank := ← rankBehind text place rest }
  | '\x7b' :: rest =>
    let (field, behind) := rest.span (· ≠ '\x7d')
    let field ← slice text place (bytesOf field)
    match behind with
    | '\x7d' :: ']' :: behind =>
      if field.isEmpty then .error .badDirective
      else
        let place := place + bytesOf field + 2
        let field ← fieldMatch field
        return { target, inSpan := !name.isEmpty, field? := some field,
                 rank := ← rankBehind text place behind }
    | _ => .error .badDirective
  | _ => .error .badDirective

/-- Whether a character may begin a directive that begins with a target or a level. -/
def beginsTarget (c : Char) : Bool :=
  c == '-' || c == ':' || c == '_' || Text.isAlphanumeric c

/-- A directive. -/
def directive (text : List Char) : Except FilterFault Directive :=
  match trimmed text with
  | [] => .error .badDirective
  | '[' :: rest => bracketDirective text none 1 rest
  | c :: cs =>
    if !beginsTarget c then .error .badDirective
    else do
      let (name, behind) := (c :: cs).span fun c => c ≠ '=' ∧ c ≠ '['
      let place := bytesOf name
      match behind with
      | [] =>
        match rankOf? text with
        | some rank => return { target := none, rank }
        | none => return { target := some (String.ofList text), rank := allRanks }
      | '=' :: _ =>
        let target ← slice text 0 place
        return { target := some (String.ofList target),
                 rank := ← rankAfterEquals (← cutAt (place + 1) text).2 }
      | _ :: rest =>
        let target ← slice text 0 place
        bracketDirective text (some (String.ofList target)) (place + 1) rest

namespace Directive

/-- Whether a directive concerns events outside every span. -/
def isStatic (d : Directive) : Bool :=
  !d.inSpan && !d.field?.any Prod.snd

/-- Whether a directive concerns an event. -/
def concerns (d : Directive) (e : Event) : Bool :=
  d.isStatic &&
    (match d.target with
      | some target => target.toList.isPrefixOf e.target.toList
      | none => true) &&
    d.field?.all fun f => f.1 == "message" || e.fields.any fun g => g.1 == f.1

/-- How long the target of a directive is; no target is shorter than every target. -/
def reach (d : Directive) : Nat :=
  (d.target.map fun t => t.utf8ByteSize + 1).getD 0

/-- Whether a directive gives way to a later one that concerns the same event: to one with a longer
target, then to one with a field if it has none, then to one with a field that comes later in the
order of bytes or is the same. -/
def yieldsTo (d later : Directive) : Bool :=
  if d.reach ≠ later.reach then d.reach < later.reach
  else
    match d.field?, later.field? with
    | some f, some g => Text.utf8 f.1 ≤ Text.utf8 g.1
    | some _, none => false
    | none, _ => true

/-! ## 4. Filters -/

/-- The directives of a text.  If there is none, errors are shown. -/
def parseAll (text : String) : Except FilterFault (List Directive) := do
  let directives ← ((Text.split ',' text.toList).filter (· ≠ [])).mapM directive
  return if directives = [] then [{ target := none, rank := Level.error.rank }] else directives

/-- The directive that counts for an event. -/
def decisive? (directives : List Directive) (e : Event) : Option Directive :=
  (directives.filter (·.concerns e)).foldl
    (fun best d =>
      match best with
      | none => some d
      | some b => if b.yieldsTo d then some d else some b)
    none

/-- The filter that some directives make. -/
def filterOf (directives : List Directive) : LogFilter where
  shows e :=
    match decisive? directives e with
    | some d => e.level.rank ≤ d.rank
    | none => false

/-- The reader of log filters that are directives. -/
def reader : FilterReader := fun text =>
  (parseAll text).map filterOf

end Directive

end SeriesSchema
