import SeriesSchema.Toml.Scalar

/-!
# TOML strings

The four ways to write a string: on one line or on several, with escapes or without.  All readers
here are given the text behind the opening quotes, and give the string and the text behind the
closing ones.

A string on several lines may end in up to two quotes of its own, and the line end right behind its
opening quotes does not belong to it.  `fuel` bounds the characters that are read; the length of the
text is enough.
-/

namespace SeriesSchema.Toml

/-- Whether a character may stand for itself: a tab, or no control character. -/
def isPlain (c : Char) : Bool :=
  c == '\t' || (' ' ≤ c && c != '\x7f')

/-- The character that a backslash and hexadecimal digits stand for; `count` of them are read. -/
def codePoint? (count : Nat) (cs : List Char) : Option (Char × List Char) :=
  let ds := cs.take count
  let n := ofDigits 16 ds
  if ds.length = count && ds.all (digitValue · < 16) && decide n.isValidChar then
    some (Char.ofNat n, cs.drop count)
  else none

/-- The character that an escape stands for; `cs` is the text behind its backslash. -/
def escape? (cs : List Char) : Option (Char × List Char) :=
  match cs with
  | 'b' :: cs => some ('\x08', cs)
  | 't' :: cs => some ('\t', cs)
  | 'n' :: cs => some ('\n', cs)
  | 'f' :: cs => some ('\x0c', cs)
  | 'r' :: cs => some ('\r', cs)
  | 'e' :: cs => some ('\x1b', cs)
  | '"' :: cs => some ('"', cs)
  | '\\' :: cs => some ('\\', cs)
  | 'x' :: cs => codePoint? 2 cs
  | 'u' :: cs => codePoint? 4 cs
  | 'U' :: cs => codePoint? 8 cs
  | _ => none

/-- The text behind a line end at its head. -/
def newline? : List Char → Option (List Char)
  | '\n' :: cs => some cs
  | '\r' :: '\n' :: cs => some cs
  | _ => none

/-- Whether a character is a blank within a line. -/
def isLineBlank (c : Char) : Bool :=
  c == ' ' || c == '\t'

/-- The text without blanks and line ends at its head. -/
def skipLines (fuel : Nat) (cs : List Char) : List Char :=
  match fuel with
  | 0 => cs
  | fuel + 1 =>
    match newline? (cs.dropWhile isLineBlank) with
    | some cs => skipLines fuel cs
    | none => cs.dropWhile isLineBlank

/-- A string with escapes on one line; `read` is what has been read of it, backwards. -/
def basic? (fuel : Nat) (read cs : List Char) : Option (String × List Char) :=
  match fuel, cs with
  | fuel + 1, c :: cs =>
    if c = '"' then some (String.ofList read.reverse, cs)
    else if c = '\\' then (escape? cs).bind fun e => basic? fuel (e.1 :: read) e.2
    else if isPlain c then basic? fuel (c :: read) cs
    else none
  | _, _ => none

/-- A string without escapes on one line. -/
def literal? (cs : List Char) : Option (String × List Char) :=
  let (text, rest) := cs.span (· ≠ '\'')
  if text.all isPlain then (expect? '\'' rest).map fun rest => (String.ofList text, rest) else none

/-- The text behind the closing quotes of a string on several lines, and the quotes before them that
belong to the string. -/
def closing? (quote : Char) (cs : List Char) : Option (List Char × List Char) :=
  let run := (cs.takeWhile (· = quote)).length
  if run < 3 then none
  else
    let own := min run 5 - 3
    some (List.replicate own quote, cs.drop (own + 3))

/-- A string with escapes on several lines.  A backslash at the end of a line joins it to the next
character that is no blank. -/
def multilineBasic? (fuel : Nat) (read cs : List Char) : Option (String × List Char) :=
  match fuel, cs with
  | fuel + 1, c :: cs =>
    match closing? '"' (c :: cs) with
    | some (own, rest) => some (String.ofList (read.reverse ++ own), rest)
    | none =>
      if c = '\\' then
        match newline? (cs.dropWhile isLineBlank) with
        | some cs => multilineBasic? fuel read (skipLines cs.length cs)
        | none => (escape? cs).bind fun e => multilineBasic? fuel (e.1 :: read) e.2
      else if c = '\n' || isPlain c then multilineBasic? fuel (c :: read) cs
      else if c = '\r' && cs.head? = some '\n' then multilineBasic? fuel (c :: read) cs
      else none
  | _, _ => none

/-- A string without escapes on several lines. -/
def multilineLiteral? (fuel : Nat) (read cs : List Char) : Option (String × List Char) :=
  match fuel, cs with
  | fuel + 1, c :: cs =>
    match closing? '\'' (c :: cs) with
    | some (own, rest) => some (String.ofList (read.reverse ++ own), rest)
    | none =>
      if c = '\n' || isPlain c || (c = '\r' && cs.head? = some '\n') then
        multilineLiteral? fuel (c :: read) cs
      else none
  | _, _ => none

/-- A string in any of the four ways, its opening quotes included. -/
def readString? (cs : List Char) : Option (String × List Char) :=
  match cs with
  | '"' :: '"' :: '"' :: cs => multilineBasic? (cs.length + 1) [] ((newline? cs).getD cs)
  | '\'' :: '\'' :: '\'' :: cs => multilineLiteral? (cs.length + 1) [] ((newline? cs).getD cs)
  | '"' :: cs => basic? (cs.length + 1) [] cs
  | '\'' :: cs => literal? cs
  | _ => none

end SeriesSchema.Toml
