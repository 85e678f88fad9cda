import SeriesSchema.Proofs.ClassBody
import SeriesSchema.Proofs.PlainTexts

/-!
# Flat files

The files on which the two extractors agree: package and import lines, modifiers, and then an
enumeration of bare constants, or a class of bare fields with one name each.  The search by pattern
knows nothing of lines, types and bodies, so the agreement rests on the layout.

* A name that counts has a space before it and a separator right behind it.
* Any other word is followed by a space, a full stop, a bracket or a brace; or, at the end of a
  line, it follows a full stop, so that no blank stands before its semicolon.  This is why the names
  in package and import lines have to be dotted (`Line.passes`).

Each piece of the grammar has two lemmas, for what it is to one reader and to the other: its tokens
(`reads`), and its fields for the search (`passes`).  A file has them from its pieces.  The type is
found by the search at the first brace, and by the other reader behind the first keyword.

1. the grammar;
2. the tokens of the pieces;
3. the fields that the search finds in them;
4. the type that it finds;
5. the first declaration;
6. the fields of its body;
7. files.
-/

namespace SeriesSchema

open Text

/-! ## 1. The grammar -/

/-- A word, and the space behind it. -/
abbrev SpacedWord := PlainWord × Space

namespace SpacedWord

def text (w : SpacedWord) : List Char := w.1.chars ++ w.2.1

def tokens (w : SpacedWord) : List Token := [.word w.1.text]

end SpacedWord

/-- A name, and words with full stops behind them in front of it. -/
structure DottedName where
  qualifiers : List PlainWord := []
  last : PlainWord

namespace DottedName

def words (n : DottedName) : List PlainWord := n.qualifiers ++ [n.last]

/-- The text up to the last full stop. -/
def front (n : DottedName) : List Char := n.qualifiers.flatMap fun q => q.chars ++ ['.']

def text (n : DottedName) : List Char := n.front ++ n.last.chars

def frontTokens (n : DottedName) : List Token :=
  n.qualifiers.flatMap fun q => [.word q.text, .sign '.']

def tokens (n : DottedName) : List Token := n.frontTokens ++ [.word n.last.text]

end DottedName

/-- A line in front of the declaration: words, a dotted name, and a semicolon right behind it. -/
structure Line where
  words : List SpacedWord
  name : DottedName
  dotted : name.qualifiers ≠ []
  after : Blanks

namespace Line

/-- The words that say what the line is for. -/
def keywords (l : Line) : List String := l.words.map fun w => w.1.text

def text (l : Line) : List Char :=
  l.words.flatMap SpacedWord.text ++ (l.name.text ++ (';' :: l.after.1))

def tokens (l : Line) : List Token :=
  l.words.flatMap SpacedWord.tokens ++ (l.name.tokens ++ [.sign ';'])

end Line

/-- A name with any number of array brackets, which may have blanks before them and in them. -/
structure FlatType where
  name : DottedName
  brackets : List (Blanks × Blanks) := []

namespace FlatType

def bracketText (b : Blanks × Blanks) : List Char := b.1.1 ++ ('[' :: (b.2.1 ++ [']']))

def bracketTokens (_ : Blanks × Blanks) : List Token := [.sign '[', .sign ']']

def text (t : FlatType) : List Char := t.name.text ++ t.brackets.flatMap bracketText

def tokens (t : FlatType) : List Token := t.name.tokens ++ t.brackets.flatMap bracketTokens

end FlatType

/-- A field: modifiers, a type, and a name with a semicolon right behind it. -/
structure FlatField where
  modifiers : List SpacedWord
  type : FlatType
  space : Space
  name : PlainWord
  after : Blanks
  notStatic : ∀ w ∈ modifiers.map Prod.fst ++ (type.name.words ++ [name]), w.text ≠ "static"

namespace FlatField

def text (f : FlatField) : List Char :=
  f.modifiers.flatMap SpacedWord.text ++
    (f.type.text ++ (f.space.1 ++ (f.name.chars ++ [';']) ++ f.after.1))

def tokens (f : FlatField) : List Token :=
  f.modifiers.flatMap SpacedWord.tokens ++ (f.type.tokens ++ [.word f.name.text, .sign ';'])

end FlatField

/-- A constant, and the space before it. -/
abbrev FlatConstant := Space × PlainWord

namespace FlatConstant

/-- The text of a constant with a separator right behind it. -/
def text (separator : Char) (k : FlatConstant) : List Char := k.1.1 ++ (k.2.chars ++ [separator])

def tokens (separator : Char) (k : FlatConstant) : List Token := [.word k.2.text, .sign separator]

end FlatConstant

/-- What stands between the braces of a declaration. -/
inductive FlatBody
  /-- constants with commas between them, and a semicolon after the last -/
  | enumType (constants : List FlatConstant) (last : FlatConstant) (after : Blanks)
  /-- fields -/
  | classType (before : Blanks) (fields : List FlatField)

namespace FlatBody

def kind : FlatBody → Kind
  | enumType .. => .enumType
  | classType .. => .classType

/-- The keyword of a declaration with such a body. -/
def keyword : FlatBody → PlainWord
  | enumType .. => { text := "enum" }
  | classType .. => { text := "class" }

def text : FlatBody → List Char
  | enumType constants last after =>
    constants.flatMap (FlatConstant.text ',') ++ (last.text ';' ++ after.1)
  | classType before fields => before.1 ++ fields.flatMap FlatField.text

def tokens : FlatBody → List Token
  | enumType constants last _ =>
    constants.flatMap (FlatConstant.tokens ',') ++ last.tokens ';'
  | classType _ fields => fields.flatMap FlatField.tokens

def names : FlatBody → List String
  | enumType constants last _ => constants.map (fun k => k.2.text) ++ [last.2.text]
  | classType _ fields => fields.map fun f => f.name.text

end FlatBody

/-- A file with one flat declaration. -/
structure FlatFile where
  before : Blanks
  package : Option Line
  isPackage : ∀ l ∈ package, l.keywords = ["package"]
  imports : List Line
  areImports : ∀ l ∈ imports, l.keywords = ["import"] ∨ l.keywords = ["import", "static"]
  modifiers : List SpacedWord
  noKeyword : ∀ w ∈ modifiers, Kind.ofKeyword? w.1.text = none
  space : Space
  name : PlainWord
  gap : Blanks
  body : FlatBody
  after : Blanks

namespace FlatFile

def lines (f : FlatFile) : List Line := f.package.toList ++ f.imports

/-- The text before the keyword. -/
def front (f : FlatFile) : List Char :=
  f.before.1 ++ (f.lines.flatMap Line.text ++ f.modifiers.flatMap SpacedWord.text)

/-- The text from the opening brace on. -/
def block (f : FlatFile) : List Char :=
  '\x7b' :: (f.body.text ++ ('\x7d' :: f.after.1))

def text (f : FlatFile) : List Char :=
  f.front ++ (f.body.keyword.chars ++ f.space.1 ++ (f.name.chars ++ (f.gap.1 ++ f.block)))

/-- The source text. -/
def source (f : FlatFile) : String := String.ofList f.text

/-- The tokens before the keyword. -/
def frontTokens (f : FlatFile) : List Token :=
  f.lines.flatMap Line.tokens ++ f.modifiers.flatMap SpacedWord.tokens

def blockTokens (f : FlatFile) : List Token :=
  .sign '\x7b' :: (f.body.tokens ++ [.sign '\x7d'])

/-- The definition that the file holds. -/
def definition (f : FlatFile) : Definition := ⟨f.name.text, f.body.names⟩

end FlatFile

/-! ## 2. Tokens -/

open Mode

theorem SpacedWord.reads (w : SpacedWord) : between.Reads w.text w.tokens between :=
  reads_word_space w.1 w.2

/-- A dotted name, if what stands behind it does not go on with its last word. -/
theorem DottedName.reads (n : DottedName) {text : List Char} {ts : List Token} {m : Mode}
    (hends : EndsWord text) (h : between.Reads text ts m) :
    between.Reads (n.text ++ text) (n.tokens ++ ts) m := by
  have hfront : between.Reads n.front n.frontTokens between :=
    .flatMap (fun q => reads_word_sign q (by decide) (by decide)) n.qualifiers
  have hall := hfront.append (reads_word n.last hends h)
  simpa [DottedName.text, DottedName.tokens] using hall

theorem Line.reads (l : Line) : between.Reads l.text l.tokens between := by
  have hends : EndsWord (';' :: l.after.1) := endsWord_cons (by decide) _
  have hend : between.Reads (';' :: l.after.1) [.sign ';'] between :=
    (reads_sign (by decide)).append (reads_blanks l.after.2)
  exact (Reads.flatMap SpacedWord.reads l.words).append (l.name.reads hends hend)

theorem FlatType.reads_brackets (brackets : List (Blanks × Blanks)) :
    between.Reads (brackets.flatMap bracketText) (brackets.flatMap bracketTokens) between := by
  refine .flatMap (fun b => ?_) brackets
  have hopen : between.Reads ['['] [.sign '['] between := reads_sign (by decide)
  have hclose : between.Reads [']'] [.sign ']'] between := reads_sign (by decide)
  exact (reads_blanks b.1.2).append (hopen.append ((reads_blanks b.2.2).append hclose))

theorem FlatField.reads (f : FlatField) : between.Reads f.text f.tokens between := by
  have hname : between.Reads (f.space.1 ++ (f.name.chars ++ [';']) ++ f.after.1)
      [.word f.name.text, .sign ';'] between :=
    ((reads_blanks f.space.2.2).append (reads_word_sign f.name (by decide) (by decide))).append
      (reads_blanks f.after.2)
  -- behind the type's name there is a bracket, or the space before the field's name
  have hends : EndsWord (f.type.brackets.flatMap FlatType.bracketText ++
      (f.space.1 ++ (f.name.chars ++ [';']) ++ f.after.1)) := by
    cases f.type.brackets with
    | nil =>
      rw [List.append_assoc]
      exact endsWord_space f.space _
    | cons b bs =>
      rw [List.flatMap_cons, FlatType.bracketText, List.append_assoc, List.append_assoc]
      exact (endsWord_cons (by decide) _).blanks b.1
  have htype := f.type.name.reads hends ((FlatType.reads_brackets _).append hname)
  have hall := (Reads.flatMap SpacedWord.reads f.modifiers).append htype
  simpa [FlatField.text, FlatField.tokens, FlatType.text, FlatType.tokens] using hall

theorem FlatConstant.reads {separator : Char} (hword : isIdentifierChar separator = false)
    (hsign : start separator = (between, [.sign separator])) (k : FlatConstant) :
    between.Reads (k.text separator) (k.tokens separator) between :=
  (reads_blanks k.1.2.2).append (reads_word_sign k.2 hword hsign)

theorem FlatBody.reads (b : FlatBody) : between.Reads b.text b.tokens between := by
  cases b with
  | enumType constants last after =>
    have hconstants : between.Reads (constants.flatMap (FlatConstant.text ','))
        (constants.flatMap (FlatConstant.tokens ',')) between :=
      .flatMap (FlatConstant.reads (by decide) (by decide)) constants
    have hlast : between.Reads (last.text ';' ++ after.1) (last.tokens ';') between := by
      simpa using (last.reads (by decide) (by decide)).append (reads_blanks after.2)
    exact hconstants.append hlast
  | classType before fields =>
    exact (reads_blanks before.2).append (Reads.flatMap FlatField.reads fields)

/-- **The tokens of a flat file.** -/
theorem FlatFile.tokenize_source (f : FlatFile) :
    tokenize f.source = f.frontTokens ++
      .word f.body.keyword.text :: .word f.name.text :: f.blockTokens := by
  have hfront : between.Reads f.front f.frontTokens between :=
    (reads_blanks f.before.2).append ((Reads.flatMap Line.reads f.lines).append
      (Reads.flatMap SpacedWord.reads f.modifiers))
  have hblock : between.Reads f.block f.blockTokens between := by
    have hopen : between.Reads ['\x7b'] [.sign '\x7b'] between := reads_sign (by decide)
    have hclose : between.Reads ('\x7d' :: f.after.1) [.sign '\x7d'] between :=
      (reads_sign (by decide)).append (reads_blanks f.after.2)
    exact hopen.append (f.body.reads.append hclose)
  have hends : EndsWord (f.gap.1 ++ f.block) := (endsWord_cons (by decide) _).blanks f.gap
  have hname := reads_word f.name hends ((reads_blanks f.gap.2).append hblock)
  have hall := hfront.append ((reads_word_space f.body.keyword f.space).append hname)
  have hsource : f.source.toList = f.text := String.toList_ofList
  rw [← FlatFile.text, ← hsource] at hall
  rw [hall.tokenize]
  simp [finish]

/-! ## 3. Fields -/

open SeparatedWord

theorem SpacedWord.passes (w : SpacedWord) : Passes w.text [] :=
  (passes_word w.1).append (passes_space w.2)

/-- Behind a full stop there is no run. -/
theorem DottedName.scans_front (n : DottedName) (h : n.qualifiers ≠ [])
    (run : Option (List Char)) : Scans run n.front [] none := by
  have hqualifier (run : Option (List Char)) (q : PlainWord) :
      Scans run (q.chars ++ ['.']) [] none :=
    (scans_word run q).append (scans_sign _ (Or.inl rfl))
  have hmore (qs : List PlainWord) : Scans none (qs.flatMap fun q => q.chars ++ ['.']) [] none := by
    induction qs with
    | nil => exact .nil none
    | cons q qs ih => exact (hqualifier none q).append ih
  obtain ⟨q, qs, hqs⟩ := List.exists_cons_of_ne_nil h
  rw [front, hqs, List.flatMap_cons]
  exact (hqualifier run q).append (hmore qs)

theorem DottedName.passes (n : DottedName) : Passes n.text [] := by
  have hfront : Passes n.front [] :=
    .flatMap_nil (fun q => (passes_word q).append (passes_sign (Or.inl rfl))) n.qualifiers
  exact hfront.append (passes_word n.last)

/-- **A line gives no field**: the last word of its name has a full stop before it. -/
theorem Line.passes (l : Line) : Passes l.text [] := by
  have hname : Passes (l.name.text ++ [';']) [] := by
    intro run
    -- the semicolon meets no run, since none has begun behind the full stop
    have hlast : Scans none (l.name.last.chars ++ [';']) [] none :=
      (scans_word none l.name.last).append (scans_separator (by decide))
    rw [DottedName.text, List.append_assoc]
    exact ⟨none, (l.name.scans_front l.dotted run).append hlast⟩
  have hwords : Passes (l.words.flatMap SpacedWord.text) [] :=
    .flatMap_nil SpacedWord.passes l.words
  have hall := hwords.append (hname.append (passes_blanks l.after))
  simpa [Line.text] using hall

theorem FlatType.passes (t : FlatType) : Passes t.text [] := by
  have hbracket (b : Blanks × Blanks) : Passes (bracketText b) [] :=
    (passes_blanks b.1).append ((passes_sign (c := '[') (by decide)).append
      ((passes_blanks b.2).append (passes_sign (by decide))))
  exact t.name.passes.append (.flatMap_nil hbracket t.brackets)

theorem FlatField.passes (f : FlatField) : Passes f.text [f.name.text] := by
  have hmodifiers : Passes (f.modifiers.flatMap SpacedWord.text) [] :=
    .flatMap_nil SpacedWord.passes f.modifiers
  have hname := (passes_field f.space f.name (c := ';') (by decide)).append (passes_blanks f.after)
  exact hmodifiers.append (f.type.passes.append hname)

theorem FlatConstant.passes {separator : Char} (h : isSeparator separator = true)
    (k : FlatConstant) : Passes (k.text separator) [k.2.text] :=
  passes_field k.1 k.2 h

theorem FlatBody.passes (b : FlatBody) : Passes b.text b.names := by
  cases b with
  | enumType constants last after =>
    have hconstants : Passes (constants.flatMap (FlatConstant.text ','))
        (constants.map fun k => k.2.text) :=
      .flatMap_singleton (FlatConstant.passes (by decide)) constants
    exact hconstants.append ((last.passes (by decide)).append (passes_blanks after))
  | classType before fields =>
    exact (passes_blanks before).append (.flatMap_singleton FlatField.passes fields)

theorem FlatFile.passes_front (f : FlatFile) : Passes f.front [] :=
  (passes_blanks f.before).append ((Passes.flatMap_nil Line.passes f.lines).append
    (.flatMap_nil SpacedWord.passes f.modifiers))

/-- **The fields that the search finds in a flat file.** -/
theorem FlatFile.fields_text (f : FlatFile) : SeparatedWord.fields f.text = f.body.names := by
  have hblock : Passes f.block f.body.names := by
    have hclose : Passes ('\x7d' :: f.after.1) [] :=
      (passes_sign (by decide)).append (passes_blanks f.after)
    have hall := (passes_sign (c := '\x7b') (by decide)).append (f.body.passes.append hclose)
    simpa [block] using hall
  have hname : Passes (f.name.chars ++ (f.gap.1 ++ f.block)) f.body.names :=
    (passes_word f.name).append ((passes_blanks f.gap).append hblock)
  have hkeyword : Passes (f.body.keyword.chars ++ f.space.1) [] :=
    (passes_word f.body.keyword).append (passes_space f.space)
  exact (f.passes_front.append (hkeyword.append hname)).fields

/-! ## 4. The type -/

theorem SpacedWord.not_mem_text (w : SpacedWord) : '\x7b' ∉ w.text := by
  have hword : '\x7b' ∉ w.1.chars := w.1.not_mem_chars (by decide)
  have hspace : '\x7b' ∉ w.2.1 := not_mem_of_blanks w.2.2.2 (by decide)
  simp [text, hword, hspace]

theorem DottedName.not_mem_text (n : DottedName) : '\x7b' ∉ n.text := by
  have hword (w : PlainWord) : '\x7b' ∉ w.chars := w.not_mem_chars (by decide)
  simp [text, front, hword]

theorem Line.not_mem_text (l : Line) : '\x7b' ∉ l.text := by
  have hafter : '\x7b' ∉ l.after.1 := not_mem_of_blanks l.after.2 (by decide)
  simp [text, SpacedWord.not_mem_text, l.name.not_mem_text, hafter]

/-- **The type that the search finds in a flat file.** -/
theorem FlatFile.typeName?_text (f : FlatFile) :
    SeparatedWord.typeName? f.text = some f.name.text := by
  -- the pattern fits from the last blank before the name on, and nowhere before
  obtain ⟨init, blank, hspace⟩ : ∃ init blank, f.space.1 = init ++ [blank] :=
    ⟨_, _, (List.dropLast_concat_getLast f.space.2.1).symm⟩
  have hblanks : init.all isBlank = true ∧ isBlank blank = true := by
    simpa [hspace] using f.space.2.2
  have hfront : '\x7b' ∉ f.front ++ (f.body.keyword.chars ++ init) := by
    have hbefore : '\x7b' ∉ f.before.1 := not_mem_of_blanks f.before.2 (by decide)
    have hkeyword : '\x7b' ∉ f.body.keyword.chars := f.body.keyword.not_mem_chars (by decide)
    have hinit : '\x7b' ∉ init := not_mem_of_blanks hblanks.1 (by decide)
    simp [front, hbefore, Line.not_mem_text, SpacedWord.not_mem_text, hkeyword, hinit]
  have htext : f.text = (f.front ++ (f.body.keyword.chars ++ init)) ++
      blank :: (f.name.chars ++ (f.gap.1 ++ f.block)) := by
    simp [text, hspace]
  rw [htext, block, typeName?_append hfront hblanks.2 (fun c hc => (f.name.classes_of_mem hc).2)
    f.name.chars_ne_nil (List.all_eq_true.mp f.gap.2), f.name.ofList_chars]

/-! ## 5. The first declaration -/

open Declaration

/-- The search passes over a dotted name and the sign behind it, whatever its words are: each but
the last has a full stop behind it, and the last has one before it. -/
theorem DottedName.skips (n : DottedName) (h : n.qualifiers ≠ []) :
    Skips (n.tokens ++ [.sign ';']) := by
  have hqualifier (q : PlainWord) (dotted : Bool) (ts : List Token) :
      firstFrom? dotted (.word q.text :: .sign '.' :: ts) = firstFrom? true ts := by
    rw [firstFrom?_word (Or.inr (Or.inr rfl)), firstFrom?_sign]
    rfl
  have hmore (qs : List PlainWord) (ts : List Token) :
      firstFrom? true ((qs.flatMap fun q => [.word q.text, .sign '.']) ++ ts) =
        firstFrom? true ts := by
    induction qs with
    | nil => rfl
    | cons q qs ih => exact (hqualifier q true _).trans ih
  intro rest
  obtain ⟨q, qs, hqs⟩ := List.exists_cons_of_ne_nil h
  have hfront (ts : List Token) :
      firstFrom? false (n.frontTokens ++ ts) = firstFrom? true ts := by
    rw [frontTokens, hqs, List.flatMap_cons, List.append_assoc]
    exact (hqualifier q false _).trans (hmore qs ts)
  have hlast : firstFrom? true ([.word n.last.text] ++ ([.sign ';'] ++ rest)) =
      firstFrom? false rest := by
    rw [List.singleton_append, firstFrom?_word (Or.inl rfl), List.singleton_append, firstFrom?_sign]
    rfl
  rw [tokens, List.append_assoc, List.append_assoc, hfront, hlast]

theorem SpacedWord.skips {w : SpacedWord} (h : Kind.ofKeyword? w.1.text = none) :
    Skips w.tokens :=
  fun _ => firstFrom?_word (Or.inr (Or.inl h))

theorem Line.skips {l : Line} (h : ∀ k ∈ l.keywords, Kind.ofKeyword? k = none) :
    Skips l.tokens :=
  (Skips.flatMap fun _ hw => SpacedWord.skips (h _ (List.mem_map_of_mem hw))).append
    (l.name.skips l.dotted)

/-- The words that open a line open no declaration. -/
theorem FlatFile.ofKeyword?_lines (f : FlatFile) {l : Line} (hl : l ∈ f.lines) :
    ∀ k ∈ l.keywords, Kind.ofKeyword? k = none := by
  rw [lines, List.mem_append, Option.mem_toList] at hl
  rcases hl with hpackage | himport
  · rw [f.isPackage l hpackage]
    decide
  · rcases f.areImports l himport with h | h <;> rw [h] <;> decide

theorem FlatBody.ofKeyword?_keyword (b : FlatBody) :
    Kind.ofKeyword? b.keyword.text = some b.kind := by
  cases b <;> rfl

/-- **The first declaration of a flat file.** -/
theorem FlatFile.first?_source (f : FlatFile) :
    first? (tokenize f.source) = some ⟨f.body.kind, f.name.text, f.blockTokens⟩ := by
  have hlines : Skips (f.lines.flatMap Line.tokens) :=
    .flatMap fun _ hl => Line.skips (f.ofKeyword?_lines hl)
  have hmodifiers : Skips (f.modifiers.flatMap SpacedWord.tokens) :=
    .flatMap fun w hw => SpacedWord.skips (f.noKeyword w hw)
  rw [first?, f.tokenize_source, frontTokens, hlines.append hmodifiers,
    firstFrom?_keyword f.body.ofKeyword?_keyword]

/-! ## 6. The fields of the body -/

theorem FlatType.typeTokens {t : FlatType} (h : ∀ w ∈ t.name.words, w.text ≠ "static") :
    TypeTokens false t.tokens := by
  have hbrackets : TypeTokens false (t.brackets.flatMap bracketTokens) := by
    induction t.brackets with
    | nil => exact .nil
    | cons b bs ih => exact .brackets .nil ih
  have hlast : TypeTokens false (.word t.name.last.text :: t.brackets.flatMap bracketTokens) :=
    .word (h t.name.last (by simp [DottedName.words])) hbrackets
  have hqualifiers (qs : List PlainWord) (hqs : ∀ q ∈ qs, q.text ≠ "static") :
      TypeTokens false ((qs.flatMap fun q => [.word q.text, .sign '.']) ++
        (.word t.name.last.text :: t.brackets.flatMap bracketTokens)) := by
    induction qs with
    | nil => exact hlast
    | cons q qs ih =>
      exact .word (hqs q List.mem_cons_self) (.sign (Or.inl rfl)
        (ih fun p hp => hqs p (List.mem_cons_of_mem _ hp)))
  have hall := hqualifiers t.name.qualifiers fun q hq => h q (List.mem_append_left _ hq)
  simpa [tokens, DottedName.tokens, DottedName.frontTokens] using hall

/-- A type does not go on with an annotation that stands before it. -/
theorem FlatType.annotationGoesOn_tokens (t : FlatType) : annotationGoesOn t.tokens = false := by
  unfold tokens DottedName.tokens DottedName.frontTokens
  cases t.name.qualifiers with
  | nil => exact annotationGoesOn_cons (by simp) (by simp) _
  | cons q qs => exact annotationGoesOn_cons (by simp) (by simp) _

namespace FlatField

/-- A flat field as a member of a class. -/
def statement (f : FlatField) : FieldStatement where
  modifiers := f.modifiers.map fun w => .word w.1.text
  type := f.type.tokens
  htype := FlatType.typeTokens fun w hw => f.notStatic w (by simp [hw])
  hstart := f.type.annotationGoesOn_tokens
  first := ⟨f.name.text, f.notStatic f.name (by simp), [], none⟩

theorem tokens_statement (f : FlatField) : (Member.field f.statement).tokens = f.tokens := by
  have hmodifiers : (f.modifiers.map fun w => Modifier.word w.1.text).flatMap Modifier.tokens =
      f.modifiers.flatMap SpacedWord.tokens := by
    rw [List.flatMap_map]
    rfl
  simp [Member.tokens, FieldStatement.tokens, statement, hmodifiers, Declarator.tokens,
    Declarator.sizeTokens, Declarator.valueTokens, tokens]

theorem names_statement (f : FlatField) : (Member.field f.statement).names = [f.name.text] := by
  have hstatic :
      (f.modifiers.map fun w => Modifier.word w.1.text).any Modifier.isStatic = false := by
    rw [List.any_eq_false]
    intro m hm
    obtain ⟨w, hw, rfl⟩ := List.mem_map.mp hm
    have hne : w.1.text ≠ "static" := f.notStatic w.1 (by simp [List.mem_map_of_mem hw])
    simpa [Modifier.isStatic] using hne
  simp [Member.names, FieldStatement.names, statement, hstatic]

end FlatField

/-- Constants without arguments and bodies. -/
theorem constantNames_constants (constants : List FlatConstant) (ts : List Token) :
    constantNames (constants.flatMap (FlatConstant.tokens ',') ++ ts) =
      constants.map (fun k => k.2.text) ++ constantNames ts := by
  induction constants with
  | nil => rfl
  | cons k ks ih => simp [FlatConstant.tokens, constantNames, argumentsRest, bodyRest, ih]

/-- Flat fields are members of a class. -/
theorem FlatBody.flatMap_members (fields : List FlatField) :
    fields.flatMap FlatField.tokens =
      (fields.map fun f => Member.field f.statement).flatMap Member.tokens := by
  have htokens : FlatField.tokens = fun f => (Member.field f.statement).tokens :=
    funext fun f => f.tokens_statement.symm
  rw [List.flatMap_map, htokens]

theorem FlatBody.nested_tokens (b : FlatBody) : Nested b.tokens := by
  cases b with
  | enumType constants last after =>
    have hconstant (separator : Char) (hs : separator = ',' ∨ separator = ';') (k : FlatConstant) :
        Nested (k.tokens separator) := by
      rcases hs with rfl | rfl <;> exact .token rfl rfl (.token rfl rfl .nil)
    exact (nested_flatMap (hconstant ',' (Or.inl rfl)) constants).append
      (hconstant ';' (Or.inr rfl) last)
  | classType before fields =>
    rw [tokens, FlatBody.flatMap_members]
    exact nested_flatMap Member.nested_tokens _

theorem FlatBody.bodyFields_tokens (b : FlatBody) : bodyFields b.kind b.tokens = b.names := by
  cases b with
  | enumType constants last after =>
    rw [kind, tokens, names, bodyFields, constantNames_constants]
    simp [FlatConstant.tokens, constantNames, argumentsRest, bodyRest]
  | classType before fields =>
    have hnames : (fun f => (Member.field (FlatField.statement f)).names) =
        fun f => [f.name.text] :=
      funext FlatField.names_statement
    rw [kind, tokens, names, bodyFields, FlatBody.flatMap_members, memberFields_members,
      List.flatMap_map, hnames, ← List.map_eq_flatMap]

/-! ## 7. Files -/

/-- **The extractors agree on flat files**: both find the type that is declared, with its constants
or its fields in order. -/
theorem FlatFile.extract?_source (f : FlatFile) :
    Extractor.pattern.extract? f.source = some f.definition ∧
      Extractor.declaration.extract? f.source = some f.definition := by
  constructor
  · have hsource : f.source.toList = f.text := String.toList_ofList
    rw [Extractor.extract?, SeparatedWord.read?, hsource, f.typeName?_text, f.fields_text]
    rfl
  · have hfirst : first? (tokenize f.source) = some ⟨f.body.kind, f.name.text,
        [] ++ .sign '\x7b' :: (f.body.tokens ++ .sign '\x7d' :: [])⟩ := f.first?_source
    have hkind : f.body.kind ≠ .recordType := by
      cases f.body <;> simp [FlatBody.kind]
    rw [extract?_of_first? hfirst hkind (by simp) f.body.nested_tokens, f.body.bodyFields_tokens]
    rfl

/-- A flat file with an import line and two constants. -/
def FlatFile.day : FlatFile where
  before := ⟨[], by decide⟩
  package := none
  isPackage := by simp
  imports := [{
    words := [({ text := "import" }, ⟨[' '], by decide⟩)]
    name := { qualifiers := [{ text := "a" }], last := { text := "B" } }
    dotted := by simp
    after := ⟨['\n'], by decide⟩ }]
  areImports := by decide
  modifiers := []
  noKeyword := by simp
  space := ⟨[' '], by decide⟩
  name := { text := "Day" }
  gap := ⟨[' '], by decide⟩
  body := .enumType [(⟨['\n', ' ', ' '], by decide⟩, { text := "MON" })]
    (⟨[' '], by decide⟩, { text := "TUE" }) ⟨[' '], by decide⟩
  after := ⟨[], by decide⟩

theorem FlatFile.extract?_source_day :
    FlatFile.day.source = "import a.B;\nenum Day \x7b\n  MON, TUE; \x7d" ∧
    Extractor.pattern.extract? FlatFile.day.source = some ⟨"Day", ["MON", "TUE"]⟩ ∧
    Extractor.declaration.extract? FlatFile.day.source = some ⟨"Day", ["MON", "TUE"]⟩ := by
  have hsource : FlatFile.day.source = "import a.B;\nenum Day \x7b\n  MON, TUE; \x7d" := by decide
  have hdefinition : FlatFile.day.definition = ⟨"Day", ["MON", "TUE"]⟩ := rfl
  rw [← hdefinition]
  exact ⟨hsource, FlatFile.day.extract?_source⟩

end SeriesSchema
