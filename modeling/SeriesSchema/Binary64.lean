/-!
# Binary numbers of 64 bits

The floating point numbers of a settings file, as far as a message has to show them: the number
nearest to a decimal, and the shortest decimal that is nearest to no other number.  Both are exact
computations on natural numbers.

A number is a significand times a power of two.  The significand has at most 53 bits, and exactly 53
unless the exponent is the least one, -1074.
-/

namespace SeriesSchema

/-- A floating point number of 64 bits. -/
inductive Binary64
  /-- `significand * 2 ^ exponent`, or its negative -/
  | finite (negative : Bool) (significand : Nat) (exponent : Int)
  | infinite (negative : Bool)
  | nan
deriving DecidableEq, Repr, Inhabited

namespace Binary64

/-! ## 1. The number nearest to a decimal -/

/-- The whole number nearest to `a / b`; of two that are equally near, the even one. -/
def roundDiv (a b : Nat) : Nat :=
  let q := a / b
  let r := a % b
  if 2 * r < b then q else if b < 2 * r then q + 1 else q + q % 2

/-- `(a / b) * base ^ e` as a quotient. -/
def scale (base : Nat) (e : Int) (a b : Nat) : Nat × Nat :=
  if 0 ≤ e then (a * Nat.pow base e.toNat, b) else (a, b * Nat.pow base (-e).toNat)

/-- The number nearest to `a / b`. -/
def ofQuotient (negative : Bool) (a b : Nat) : Binary64 :=
  if a = 0 then finite negative 0 0
  else
    let guess : Int := max (a.log2 - b.log2 - 53) (-1074)
    let (x, y) := scale 2 (-guess) a b
    let e := if x / y < Nat.pow 2 53 then guess else guess + 1
    let (x, y) := scale 2 (-e) a b
    let m := roundDiv x y
    let (m, e) := if m = Nat.pow 2 53 then (Nat.pow 2 52, e + 1) else (m, e)
    if 971 < e then infinite negative else finite negative m e

/-- The number nearest to `digits * 10 ^ exponent`.  Decimals far outside the range are told by the
place of their first digit, without computing the power. -/
def ofDecimal (negative : Bool) (digits : Nat) (exponent : Int) : Binary64 :=
  let place : Int := (Nat.toDigits 10 digits).length + exponent
  if digits = 0 ∨ place < -400 then finite negative 0 0
  else if 400 < place then infinite negative
  else
    let (a, b) := scale 10 exponent digits 1
    ofQuotient negative a b

/-! ## 2. The shortest decimal -/

/-- The least `p` from `-fuel` on with `a / b < 10 ^ p`, if it is at most zero; else zero. -/
def placeBelowOne (a b : Nat) : Nat → Int
  | 0 => 0
  | fuel + 1 => if a * Nat.pow 10 (fuel + 1) < b then -((fuel : Int) + 1) else placeBelowOne a b fuel

/-- The least `p` with `a / b < 10 ^ p`, for a positive number of this format. -/
def place (a b : Nat) : Int :=
  if b ≤ a then (Nat.toDigits 10 (a / b)).length else placeBelowOne a b 330

/-- The decimal with `count` digits, or the one next to it above, that lies between the bounds
`low / unit` and `high / unit` around `a / b`; the nearer one if both do. -/
def withDigits (a b low high unit : Nat) (closed : Bool) (p : Int) (count : Nat) :
    Option (Nat × Int) :=
  let e := p - count
  let (x, y) := scale 10 (-e) a b
  let below := x / y
  let inside (c : Nat) : Bool :=
    let (n, d) := scale 10 e c 1
    let left := low * d
    let middle := n * unit
    let right := high * d
    if closed then left ≤ middle && middle ≤ right else left < middle && middle < right
  let near := roundDiv x y
  let far := if near = below then below + 1 else below
  if inside near then some (near, e) else if inside far then some (far, e) else none

/-- A decimal without the zero in which its digits end, if they do.  The decimal next above one of
nines has one digit more, and ends in zeros. -/
def withoutLastZero (decimal : Nat × Int) : Nat × Int :=
  if decimal.1 % 10 = 0 then (decimal.1 / 10, decimal.2 + 1) else decimal

/-- The shortest decimal `digits * 10 ^ exponent` that reads back as `m * 2 ^ e`. -/
def shortest (m : Nat) (e : Int) : Nat × Int :=
  let (a, b) := scale 2 e m 1
  let quarter := e - 2
  let (low, _) := scale 2 quarter (if m = Nat.pow 2 52 ∧ -1074 < e then 4 * m - 1 else 4 * m - 2) 1
  let (high, unit) := scale 2 quarter (4 * m + 2) 1
  let p := place a b
  match (List.range 17).findSome? fun k => withDigits a b low high unit (m % 2 == 0) p (k + 1) with
  | some decimal => withoutLastZero decimal
  | none => (m, e)

/-- A decimal in positional notation, with at least one digit on each side of the point. -/
def positional (digits : Nat) (exponent : Int) : String :=
  let text := Nat.toDigits 10 digits
  let zeros (n : Int) : List Char := List.replicate n.toNat '0'
  let point : Int := text.length + exponent
  String.ofList <|
    if 0 ≤ exponent then text ++ zeros exponent ++ ['.', '0']
    else if 0 < point then text.take point.toNat ++ '.' :: text.drop point.toNat
    else ['0', '.'] ++ zeros (-point) ++ text

/-- The text of a number. -/
def text : Binary64 → String
  | nan => "NaN"
  | infinite negative => if negative then "-inf" else "inf"
  | finite negative m e =>
    (if negative then "-" else "") ++
      if m = 0 then "0.0" else positional (shortest m e).1 (shortest m e).2

end Binary64

end SeriesSchema
