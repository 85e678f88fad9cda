import SeriesSchema.Text.Word

/-!
# Tokens

A source text is read as a list of tokens: words, single signs, and literals whose contents are
forgotten.  Blanks and comments separate tokens and leave nothing behind.

The reading is one pass that looks at no character twice and at none ahead.  What it would have to
look ahead for is kept in its `Mode` instead: after a `/` it does not know yet whether a comment
opens, after one or two `"` not yet whether a text block does.  So a text may be cut anywhere, and
the second part read from the mode in which the first one ended (`Mode.emits_append`).

1. tokens;
2. modes, and what one character does to them;
3. whole texts: `tokenize`, and the same as a recursion over the text, which is the form that laws
   about it are proved on.
-/

namespace SeriesSchema

open Text

/-! ## 1. Tokens -/

/-- A piece of source text that matters. -/
inductive Token
  /-- a maximal run of identifier characters -/
  | word (text : String)
  /-- any other character that is not blank -/
  | sign (c : Char)
  /-- a string, a character or a text block, whatever it holds -/
  | literal
deriving DecidableEq, Repr, Inhabited

namespace Token

/-- The text of a word. -/
def text? : Token → Option String
  | word text => some text
  | _ => none

/-- Whether a token opens a group. -/
def isOpener : Token → Bool
  | sign c => c == '(' || c == '[' || c == '{'
  | _ => false

/-- Whether a token closes a group. -/
def isCloser : Token → Bool
  | sign c => c == ')' || c == ']' || c == '}'
  | _ => false

end Token

/-! ## 2. Modes -/

/-- Where a scan stands between two characters. -/
inductive Mode
  /-- between tokens -/
  | between
  /-- in a word, of which `text` has been read -/
  | word (text : String)
  /-- after a `/` that may open a comment -/
  | slash
  /-- in a comment that ends with the line -/
  | lineComment
  /-- in a comment that ends with `*/`; `star` says that the character before was a `*` of it -/
  | blockComment (star : Bool)
  /-- after a `"` that opens a literal -/
  | quote
  /-- after two `"`, which are the empty literal unless a third makes them open a text block -/
  | twoQuotes
  /-- in a literal that ends with `delimiter`; `escaped` says that the next character is content -/
  | quoted (delimiter : Char) (escaped : Bool)
  /-- in a text block; `run` quotes stand right before, and the third ends it -/
  | block (escaped : Bool) (run : Nat)
deriving DecidableEq, Repr, Inhabited

namespace Mode

/-- The mode after a character that is met between tokens, and the token that it completes. -/
def start (c : Char) : Mode × List Token :=
  if isBlank c then (between, [])
  else if c = '/' then (slash, [])
  else if c = '"' then (quote, [])
  else if c = '\'' then (quoted '\'' false, [])
  else if isIdentifierChar c then (word (String.singleton c), [])
  else (between, [.sign c])

/-- The mode after a character of a literal, and the literal if the character ends it. -/
def inside (delimiter c : Char) : Mode × List Token :=
  if c = delimiter then (between, [.literal])
  else (quoted delimiter (c = '\\'), [])

/-- The token that is complete once the text or the mode ends. -/
def finish : Mode → List Token
  | between | lineComment | blockComment _ => []
  | word text => [.word text]
  | slash => [.sign '/']
  | quote | twoQuotes | quoted .. | block .. => [.literal]

/-- The mode after a character that does not belong to what the mode `m` holds back. -/
def leave (m : Mode) (c : Char) : Mode × List Token :=
  ((start c).1, m.finish ++ (start c).2)

/-- The mode after a character, and the tokens that it completes. -/
def step : Mode → Char → Mode × List Token
  | between, c => start c
  | word text, c => if isIdentifierChar c then (word (text.push c), []) else leave (word text) c
  | slash, c =>
    if c = '/' then (lineComment, [])
    else if c = '*' then (blockComment false, [])
    else leave slash c
  | lineComment, c => (if c = '\n' then between else lineComment, [])
  | blockComment star, c => (if star && c == '/' then between else blockComment (c == '*'), [])
  | quote, c => if c = '"' then (twoQuotes, []) else inside '"' c
  | twoQuotes, c => if c = '"' then (block false 0, []) else leave twoQuotes c
  | quoted delimiter true, _ => (quoted delimiter false, [])
  | quoted delimiter false, c => inside delimiter c
  | block true _, _ => (block false 0, [])
  | block false run, c =>
    if c = '"' then if run = 2 then (between, [.literal]) else (block false (run + 1), [])
    else (block (c = '\\') 0, [])

/-- Whether a mode stands outside every comment and every literal.  A `/` that opens nothing yet
and a word that may go on are outside, and so is the empty literal, which is complete. -/
def isOutside : Mode → Bool
  | between | word _ | slash | twoQuotes => true
  | _ => false

/-! ## 3. Whole texts -/

/-- The mode in which the reading of `text` ends. -/
def after (m : Mode) (text : List Char) : Mode :=
  text.foldl (fun m c => (m.step c).1) m

/-- The tokens that the reading of `text` completes on its way. -/
def emits : Mode → List Char → List Token
  | _, [] => []
  | m, c :: cs => (m.step c).2 ++ emits (m.step c).1 cs

@[simp] theorem after_nil (m : Mode) : m.after [] = m := rfl

@[simp] theorem after_cons (m : Mode) (c : Char) (cs : List Char) :
    m.after (c :: cs) = (m.step c).1.after cs := rfl

@[simp] theorem after_append (m : Mode) (s t : List Char) :
    m.after (s ++ t) = (m.after s).after t :=
  List.foldl_append

@[simp] theorem emits_nil (m : Mode) : m.emits [] = [] := rfl

@[simp] theorem emits_cons (m : Mode) (c : Char) (cs : List Char) :
    m.emits (c :: cs) = (m.step c).2 ++ (m.step c).1.emits cs := rfl

/-- A text may be cut anywhere and read in two parts. -/
theorem emits_append (m : Mode) (s t : List Char) :
    m.emits (s ++ t) = m.emits s ++ (m.after s).emits t := by
  induction s generalizing m with
  | nil => rfl
  | cons c cs ih => simp [ih]

end Mode

/-- A scan under way: its mode, and the tokens read so far. -/
structure Scan where
  mode : Mode
  tokens : Array Token
deriving Repr, Inhabited

namespace Scan

/-- The scan before any character. -/
def empty : Scan := ⟨.between, #[]⟩

/-- The scan after one more character. -/
def read (s : Scan) (c : Char) : Scan :=
  ⟨(s.mode.step c).1, s.tokens ++ (s.mode.step c).2⟩

/-- The tokens read, the one in hand included. -/
def finish (s : Scan) : List Token :=
  s.tokens.toList ++ s.mode.finish

theorem foldl_read (s : Scan) (text : List Char) :
    (text.foldl read s).mode = s.mode.after text ∧
    (text.foldl read s).tokens.toList = s.tokens.toList ++ s.mode.emits text := by
  induction text generalizing s with
  | nil => simp
  | cons c cs ih =>
    have := ih (s.read c)
    simpa [read] using this

end Scan

/-- The tokens of a source text. -/
def tokenize (source : String) : List Token :=
  (source.toList.foldl Scan.read Scan.empty).finish

/-- The pass reads what the recursion over the text emits. -/
theorem tokenize_eq (source : String) :
    tokenize source =
      Mode.between.emits source.toList ++ (Mode.between.after source.toList).finish := by
  obtain ⟨hmode, htokens⟩ := Scan.foldl_read Scan.empty source.toList
  rw [tokenize, Scan.finish, hmode, htokens]
  simp [Scan.empty]

end SeriesSchema
