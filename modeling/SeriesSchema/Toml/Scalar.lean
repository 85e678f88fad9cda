import SeriesSchema.Toml.Value

/-!
# TOML scalars without quotes

Booleans, integers, floats, dates and times.  Each is a single run of characters, and is read as a
whole: a reader here takes all of the run or fails.

Integers beyond 64 bits are let through as long as they stay within 128, since a value that nothing
asks for does no harm; see `Value.fits`.
-/

namespace SeriesSchema.Toml

/-! ## 1. Digits -/

/-- The value of a digit in the bases up to sixteen. -/
def digitValue (c : Char) : Nat :=
  if c.isDigit then c.toNat - '0'.toNat
  else if 'a' ≤ c && c ≤ 'f' then c.toNat - 'a'.toNat + 10
  else if 'A' ≤ c && c ≤ 'F' then c.toNat - 'A'.toNat + 10
  else 16

/-- The number that digits stand for. -/
def ofDigits (base : Nat) (digits : List Char) : Nat :=
  digits.foldl (fun n c => n * base + digitValue c) 0

/-- The digits of a run in which single underscores may stand between digits. -/
def digits? (base : Nat) : List Char → Option (List Char)
  | [] => none
  | [c] => if digitValue c < base then some [c] else none
  | c :: '_' :: cs => if digitValue c < base then (digits? base cs).map (c :: ·) else none
  | c :: cs => if digitValue c < base then (digits? base cs).map (c :: ·) else none

/-- Whether digits have a zero in front that says nothing. -/
def hasLeadingZero : List Char → Bool
  | '0' :: _ :: _ => true
  | _ => false

/-- A sign, if there is one, and what follows: whether it is a minus, and the rest. -/
def signed : List Char → Bool × List Char
  | '-' :: cs => (true, cs)
  | '+' :: cs => (false, cs)
  | cs => (false, cs)

/-! ## 2. Numbers -/

/-- The integer with a sign and a magnitude, if it is in range. -/
def integer? (negative : Bool) (n : Nat) : Option Value :=
  if negative then if n ≤ Nat.pow 2 127 then some (.integer (-(n : Int))) else none
  else if n < Nat.pow 2 128 then some (.integer n) else none

/-- An integer in base ten, with its sign, or without one in another base. -/
def readInteger? : List Char → Option Value
  | '0' :: 'x' :: cs => (digits? 16 cs).bind fun ds => integer? false (ofDigits 16 ds)
  | '0' :: 'o' :: cs => (digits? 8 cs).bind fun ds => integer? false (ofDigits 8 ds)
  | '0' :: 'b' :: cs => (digits? 2 cs).bind fun ds => integer? false (ofDigits 2 ds)
  | cs =>
    let (negative, cs) := signed cs
    (digits? 10 cs).bind fun ds =>
      if hasLeadingZero ds then none else integer? negative (ofDigits 10 ds)

/-- The exponent of a float: nothing, or a mark and digits with a sign. -/
def exponent? : List Char → Option Int
  | [] => some 0
  | c :: cs =>
    if c = 'e' || c = 'E' then
      let (negative, cs) := signed cs
      (digits? 10 cs).map fun ds =>
        if negative then -(ofDigits 10 ds : Int) else (ofDigits 10 ds : Int)
    else none

/-- The float with the given parts, if it is in range. -/
def float? (negative : Bool) (whole fraction : List Char) (exponent : Int) : Option Value :=
  match Binary64.ofDecimal negative (ofDigits 10 (whole ++ fraction))
      (exponent - fraction.length) with
  | .infinite _ => none
  | x => some (.float x)

/-- A float: a whole part, and a fraction or an exponent or both. -/
def readFloat? (cs : List Char) : Option Value := do
  let (negative, cs) := signed cs
  if cs = ['i', 'n', 'f'] then return .float (.infinite negative)
  if cs = ['n', 'a', 'n'] then return .float .nan
  let isMark (c : Char) : Bool := c == 'e' || c == 'E'
  let (whole, rest) := cs.span fun c => c != '.' && !isMark c
  let whole ← digits? 10 whole
  if hasLeadingZero whole then none
  else
    match rest with
    | [] => none
    | '.' :: rest =>
      let (fraction, rest) := rest.span fun c => !isMark c
      float? negative whole (← digits? 10 fraction) (← exponent? rest)
    | rest => float? negative whole [] (← exponent? rest)

/-! ## 3. Dates and times -/

/-- A number of exactly `count` digits at the head of a run, and the rest. -/
def fixed? (count : Nat) (cs : List Char) : Option (Nat × List Char) :=
  let ds := cs.take count
  if ds.length = count && ds.all Char.isDigit then some (ofDigits 10 ds, cs.drop count) else none

/-- Succeeds on a given character and gives the rest. -/
def expect? (c : Char) : List Char → Option (List Char)
  | [] => none
  | d :: cs => if d = c then some cs else none

/-- How many days a month has. -/
def daysIn (year month : Nat) : Nat :=
  if month = 2 then if year % 4 = 0 ∧ (year % 100 ≠ 0 ∨ year % 400 = 0) then 29 else 28
  else if month = 4 ∨ month = 6 ∨ month = 9 ∨ month = 11 then 30
  else 31

/-- A date, and the rest of the run. -/
def date? (cs : List Char) : Option (List Char) := do
  let (year, cs) ← fixed? 4 cs
  let (month, cs) ← fixed? 2 (← expect? '-' cs)
  let (day, cs) ← fixed? 2 (← expect? '-' cs)
  if 1 ≤ month ∧ month ≤ 12 ∧ 1 ≤ day ∧ day ≤ daysIn year month then some cs else none

/-- The fraction of a second, if there is one, and the rest of the run. -/
def fraction? : List Char → Option (List Char)
  | '.' :: cs =>
    if (cs.takeWhile Char.isDigit).isEmpty then none else some (cs.dropWhile Char.isDigit)
  | cs => some cs

/-- A time, of which the seconds may be left out, and the rest of the run. -/
def time? (cs : List Char) : Option (List Char) := do
  let (hour, cs) ← fixed? 2 cs
  let (minute, cs) ← fixed? 2 (← expect? ':' cs)
  if 23 < hour ∨ 59 < minute then none
  else
    match cs with
    | ':' :: cs =>
      let (second, cs) ← fixed? 2 cs
      if 60 < second then none else fraction? cs
    | cs => some cs

/-- Whether a run is an offset from universal time, or nothing. -/
def isOffset : List Char → Bool
  | [] => true
  | ['Z'] | ['z'] => true
  | sign :: cs =>
    (sign == '+' || sign == '-') &&
      match fixed? 2 cs with
      | some (hour, ':' :: cs) =>
        match fixed? 2 cs with
        | some (minute, []) => decide (hour ≤ 23) && decide (minute ≤ 59)
        | _ => false
      | _ => false

/-- Whether a run is a date, a time, or a date and a time, the latter perhaps with an offset. -/
def isMoment (cs : List Char) : Bool :=
  match date? cs with
  | some [] => true
  | some (delimiter :: rest) =>
    (delimiter == 'T' || delimiter == 't' || delimiter == ' ') &&
      match time? rest with
      | some rest => isOffset rest
      | none => false
  | none => time? cs == some []

/-! ## 4. Scalars -/

/-- The value of a run of characters without quotes. -/
def readScalar? (cs : List Char) : Option Value :=
  if cs = "true".toList then some (.boolean true)
  else if cs = "false".toList then some (.boolean false)
  else if isMoment cs then some .moment
  else (readInteger? cs).or (readFloat? cs)

end SeriesSchema.Toml
