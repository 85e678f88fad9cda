import SeriesSchema.Schema
import SeriesSchema.Settings
import SeriesSchema.Proofs.ExtractedNames

/-!
# The text of a schema file determines the document

A document is written by putting its names between fixed pieces of text, without any escapes.  Here
is a reader for what is written, `Document.decode?`: it splits the text into lines, and the lines
into words or at the quotes.  It gives the document back as long as no name holds a sign at which it
splits (`Document.decode?_render`).

No document of a definition holds such a sign.  The extractors take names from runs of characters
among which there is none, lower case brings none in, and the check of a package name lets none
through.

1. the reader;
2. a document as lines and words;
3. the reader undoes the writing;
4. documents of definitions.
-/

namespace SeriesSchema

open Text

/-! ## 1. The reader -/

/-- The field type of a name. -/
def FieldType.ofName? (name : List Char) : Option FieldType :=
  if name = "int32".toList then some int32
  else if name = "double".toList then some double
  else none

@[simp] theorem FieldType.ofName?_name (type : FieldType) :
    ofName? type.name.toList = some type := by
  cases type with
  | int32 => rfl
  | double => rfl

namespace Document

/-- The field of a line, which has five words; the last one is the ordinal and a semicolon. -/
def readField? (line : List Char) : Option Field :=
  match split ' ' line with
  | [_, type, name, _, ordinal] =>
    (FieldType.ofName? type).map (⟨·, String.ofList name, Nat.ofDigitChars 10 ordinal.dropLast 0⟩)
  | _ => none

/-- The fields of lines, up to the first that is empty. -/
def readFields? : List (List Char) → Option (List Field)
  | [] => some []
  | line :: lines =>
    if line = [] then some []
    else (readField? line).bind fun f => (readFields? lines).map (f :: ·)

/-- The document of lines: the package stands between quotes on the second one, the names of the
messages are the second words of the fifth and the seventh one, and the fields begin with the ninth
one. -/
def readLines? : List (List Char) → Option Document
  | _ :: package :: _ :: _ :: container :: _ :: record :: _ :: lines =>
    match split '"' package, split ' ' container, split ' ' record, readFields? lines with
    | [_, javaPackage, _], [_, container, _], [_, record, _], some fields =>
      some ⟨String.ofList javaPackage, String.ofList container, String.ofList record, fields⟩
    | _, _, _, _ => none
  | _ => none

/-- The document of a text, if the text is what is written for a document. -/
def decode? (text : String) : Option Document :=
  (readLines? (split '\n' text.toList)).filter (·.render = text)

/-- What is decoded is a document with this text. -/
theorem render_of_decode? {text : String} {doc : Document} (h : decode? text = some doc) :
    doc.render = text := by
  have hfilter := (Option.filter_eq_some_iff.mp h).2
  simpa using hfilter

/-! ## 2. Lines and words -/

/-- Parts with a sign between them, as the text that they make up. -/
def joined (sep : Char) (parts : List String) : List Char :=
  joinWith sep (parts.map String.toList)

/-- The words on the line of a field. -/
def fieldWords (f : Field) : List String :=
  ["\t\trequired", f.type.name, f.name, "=", toString f.ordinal ++ ";"]

/-- The pieces between quotes on the line of the package. -/
def packagePieces (doc : Document) : List String :=
  ["option java_package = ", doc.javaPackage, ";"]

/-- The words on the line that opens the container. -/
def containerWords (doc : Document) : List String :=
  ["message", doc.container, "\x7b"]

/-- The words on the line that opens the record. -/
def recordWords (doc : Document) : List String :=
  ["\tmessage", doc.record, "\x7b"]

/-- The lines above the fields. -/
def opening (doc : Document) : List (List Char) :=
  ["syntax = \"proto2\";".toList,
    joined '"' doc.packagePieces,
    ("option java_outer_classname = \"" ++ doc.outerClassname ++ "\";").toList,
    [],
    joined ' ' doc.containerWords,
    [],
    joined ' ' doc.recordWords,
    []]

/-- The lines below the fields, without the last one. -/
def closing (doc : Document) : List (List Char) :=
  [[],
    "\t\x7d".toList,
    [],
    ("\trepeated " ++ doc.record ++ " series = 1;").toList,
    []]

/-- The lines of a schema file. -/
def lines (doc : Document) : List (List Char) :=
  doc.opening ++ doc.fields.map (fun f => joined ' ' (fieldWords f)) ++ doc.closing ++
    ["\x7d".toList]

theorem joined_cons (sep : Char) (part next : String) (parts : List String) :
    joined sep (part :: next :: parts) = part.toList ++ sep :: joined sep (next :: parts) := rfl

theorem joined_singleton (sep : Char) (part : String) : joined sep [part] = part.toList := by
  rw [joined, List.map_singleton, joinWith]

/-- The line of a field is its words and a line end. -/
theorem toList_fieldLine (f : Field) :
    (fieldLine f).toList = joined ' ' (fieldWords f) ++ ['\n'] := by
  have hrequired : "\t\trequired ".toList = "\t\trequired".toList ++ [' '] := rfl
  have hblank : " ".toList = [' '] := rfl
  have hequals : " = ".toList = ' ' :: ("=".toList ++ [' ']) := rfl
  have hend : ";\n".toList = ";".toList ++ ['\n'] := rfl
  unfold fieldLine fieldWords
  simp only [joined_cons, joined_singleton, String.toList_append, List.append_assoc,
    List.cons_append, List.nil_append, hrequired, hblank, hequals, hend]

/-- Lines, each with a line end. -/
def ended (lines : List (List Char)) : List Char :=
  lines.flatMap (· ++ ['\n'])

theorem toList_fieldLines (fs : List Field) :
    (fieldLines fs).toList = ended (fs.map fun f => joined ' ' (fieldWords f)) := by
  induction fs with
  | nil => rfl
  | cons f fs ih =>
    rw [fieldLines, String.toList_append, toList_fieldLine, ih]
    rfl

theorem joinWith_concat (lines : List (List Char)) (last : List Char) :
    joinWith '\n' (lines ++ [last]) = ended lines ++ last := by
  induction lines with
  | nil => rfl
  | cons line more ih =>
    have hcons : ∀ rest : List (List Char), rest ≠ [] →
        joinWith '\n' (line :: rest) = line ++ '\n' :: joinWith '\n' rest := by
      intro rest hrest
      cases rest with
      | nil => exact absurd rfl hrest
      | cons next rest => rfl
    rw [List.cons_append, hcons _ (by simp), ih]
    simp [ended]

/-- **The text of a schema file is its lines.** -/
theorem toList_render (doc : Document) : doc.render.toList = joinWith '\n' doc.lines := by
  have hsyntax : "syntax = \"proto2\";\n".toList = "syntax = \"proto2\";".toList ++ ['\n'] := rfl
  have hpackage : "option java_package = \"".toList =
      "option java_package = ".toList ++ ['"'] := rfl
  have hend : "\";\n".toList = '"' :: (";".toList ++ ['\n']) := rfl
  have hend' : "\";\n\n".toList = "\";".toList ++ ['\n', '\n'] := rfl
  have hmessage : "message ".toList = "message".toList ++ [' '] := rfl
  have hrecord : "\tmessage ".toList = "\tmessage".toList ++ [' '] := rfl
  have hopen : " \x7b\n\n".toList = ' ' :: ("\x7b".toList ++ ['\n', '\n']) := rfl
  have hclose : "\n\t\x7d\n\n".toList = '\n' :: ("\t\x7d".toList ++ ['\n', '\n']) := rfl
  have hseries : " series = 1;\n\n\x7d".toList =
      " series = 1;".toList ++ '\n' :: '\n' :: "\x7d".toList := rfl
  rw [lines, joinWith_concat]
  unfold render opening closing packagePieces containerWords recordWords
  simp only [ended, List.flatMap_append, List.flatMap_cons, List.flatMap_nil, toList_fieldLines,
    joined_cons, joined_singleton, String.toList_append, List.append_assoc, List.cons_append,
    List.nil_append, List.append_nil, hsyntax, hpackage, hend, hend', hmessage, hrecord, hopen,
    hclose, hseries]

/-! ## 3. Reading what was written -/

/-- The signs at which a line, a word or a quoted text ends, or may end. -/
def breaks : List Char :=
  ['\n', '\r', ' ', '\t', '"', '\\']

/-- A text that holds none of these signs stays in its line, in its word and in its quotes. -/
def StaysInside (text : String) : Prop :=
  ∀ c ∈ breaks, c ∉ text.toList

/-- The texts that a document brings into its schema file. -/
def texts (doc : Document) : List String :=
  doc.javaPackage :: doc.container :: doc.record :: doc.fields.map Field.name

theorem StaysInside.append {s t : String} (hs : StaysInside s) (ht : StaysInside t) :
    StaysInside (s ++ t) := by
  intro c hc hmem
  rw [String.toList_append] at hmem
  rcases List.mem_append.mp hmem with hmem | hmem
  · exact hs c hc hmem
  · exact ht c hc hmem

/-- A text without these signs, found by looking at each of its characters. -/
theorem staysInside_of_any {text : String} (h : text.toList.any (breaks.contains ·) = false) :
    StaysInside text := by
  intro c hc hmem
  have hany : text.toList.any (breaks.contains ·) = true :=
    List.any_eq_true.mpr ⟨c, hmem, List.contains_iff_mem.mpr hc⟩
  rw [h] at hany
  cases hany

/-- The signs lie in ASCII below `a`, and are no digits, no signs of words and no full stop. -/
theorem breaks_spec {c : Char} (hc : c ∈ breaks) :
    c.toNat < 0x61 ∧ c.isDigit = false ∧ (c.isAlphanum || c == '_' || c == '$') = false ∧
      c ≠ '.' := by
  simp only [breaks, List.mem_cons, List.not_mem_nil, or_false] at hc
  rcases hc with rfl | rfl | rfl | rfl | rfl | rfl
  all_goals decide

theorem staysInside_typeName (type : FieldType) : StaysInside type.name := by
  cases type with
  | int32 => exact staysInside_of_any (by decide)
  | double => exact staysInside_of_any (by decide)

theorem staysInside_toString (n : Nat) : StaysInside (toString n) := by
  intro c hc hmem
  rw [Nat.toString_eq_repr, Nat.toList_repr] at hmem
  have hdigit := Nat.isDigit_of_mem_toDigits (by decide) (by decide) hmem
  rw [(breaks_spec hc).2.1] at hdigit
  cases hdigit

/-- A sign that stands in no part and is not between them does not stand in the whole. -/
theorem not_mem_joined {sep c : Char} (hsep : c ≠ sep) {parts : List String}
    (h : ∀ part ∈ parts, c ∉ part.toList) : c ∉ joined sep parts := by
  induction parts with
  | nil => simp [joined, joinWith]
  | cons part more ih =>
    have hmore := ih fun other hmem => h other (List.mem_cons_of_mem _ hmem)
    cases more with
    | nil => exact h part List.mem_cons_self
    | cons next rest =>
      rw [joined_cons]
      intro hmem
      rcases List.mem_append.mp hmem with hmem | hmem
      · exact h part List.mem_cons_self hmem
      · rcases List.mem_cons.mp hmem with hc | hmem
        · exact hsep hc
        · exact hmore hmem

/-- What is joined with a sign that it does not hold is found again. -/
theorem split_joined {sep : Char} {parts : List String} (hne : parts ≠ [])
    (h : ∀ part ∈ parts, sep ∉ part.toList) :
    split sep (joined sep parts) = parts.map String.toList := by
  refine split_joinWith (by simpa using hne) fun part hmem => ?_
  obtain ⟨text, htext, rfl⟩ := List.mem_map.mp hmem
  exact h text htext

section Reading

variable {f : Field} {doc : Document}

theorem not_mem_fieldWords (h : StaysInside f.name) {c : Char} (hc : c = ' ' ∨ c = '\n') :
    ∀ word ∈ fieldWords f, c ∉ word.toList := by
  have hbreak : c ∈ breaks := by
    rcases hc with rfl | rfl
    · decide
    · decide
  have hfixed : c ∉ "\t\trequired".toList ∧ c ∉ "=".toList ∧ c ∉ ";".toList := by
    rcases hc with rfl | rfl
    · decide
    · decide
  obtain ⟨hrequired, hequals, hend⟩ := hfixed
  intro word hmem
  simp only [fieldWords, List.mem_cons, List.not_mem_nil, or_false] at hmem
  rcases hmem with rfl | rfl | rfl | rfl | rfl
  · exact hrequired
  · exact staysInside_typeName f.type c hbreak
  · exact h c hbreak
  · exact hequals
  · rw [String.toList_append, List.mem_append]
    exact not_or.mpr ⟨staysInside_toString f.ordinal c hbreak, hend⟩

/-- The line of a field is read as the field. -/
theorem readField?_joined (h : StaysInside f.name) :
    readField? (joined ' ' (fieldWords f)) = some f := by
  have hordinal : (toString f.ordinal ++ ";").toList.dropLast = Nat.toDigits 10 f.ordinal := by
    rw [String.toList_append, Nat.toString_eq_repr, Nat.toList_repr]
    exact List.dropLast_concat
  rw [readField?, split_joined (by simp [fieldWords]) (not_mem_fieldWords h (Or.inl rfl))]
  simp only [fieldWords, List.map_cons, List.map_nil, FieldType.ofName?_name, Option.map_some,
    hordinal, Nat.ofDigitChars_ten_toDigits, String.ofList_toList]

/-- The lines of fields are read up to the empty line behind them. -/
theorem readFields?_joined {fs : List Field} (h : ∀ f ∈ fs, StaysInside f.name)
    (rest : List (List Char)) :
    readFields? (fs.map (fun f => joined ' ' (fieldWords f)) ++ [] :: rest) = some fs := by
  induction fs with
  | nil => rfl
  | cons f fs ih =>
    have hread := readField?_joined (h f List.mem_cons_self)
    have hne : joined ' ' (fieldWords f) ≠ [] := by
      intro hnil
      rw [hnil] at hread
      cases hread
    rw [List.map_cons, List.cons_append, readFields?, if_neg hne, hread,
      ih fun other hmem => h other (List.mem_cons_of_mem _ hmem)]
    rfl

/-- The pieces of the package line have no quote, and none of the three special lines has a line
end; the words on the two lines of messages have no blank. -/
theorem not_mem_special {c : Char} (hbreak : c ∈ breaks) (htab : c ≠ '\t')
    (h : ∀ text ∈ doc.texts, StaysInside text) :
    (c ≠ ' ' → ∀ piece ∈ doc.packagePieces, c ∉ piece.toList) ∧
      (∀ word ∈ doc.containerWords, c ∉ word.toList) ∧
        ∀ word ∈ doc.recordWords, c ∉ word.toList := by
  have hfixed : (c ≠ ' ' → c ∉ "option java_package = ".toList) ∧ c ∉ ";".toList ∧
      c ∉ "message".toList ∧ c ∉ "\tmessage".toList ∧ c ∉ "\x7b".toList := by
    have hc := hbreak
    simp only [breaks, List.mem_cons, List.not_mem_nil, or_false] at hc
    rcases hc with rfl | rfl | rfl | rfl | rfl | rfl
    case inr.inr.inr.inl => exact absurd rfl htab
    all_goals decide
  obtain ⟨hpackage, hend, hcontainer, hrecord, hopen⟩ := hfixed
  refine ⟨fun hblank piece hmem => ?_, fun word hmem => ?_, fun word hmem => ?_⟩
  · simp only [packagePieces, List.mem_cons, List.not_mem_nil, or_false] at hmem
    rcases hmem with rfl | rfl | rfl
    · exact hpackage hblank
    · exact h _ (by simp [texts]) c hbreak
    · exact hend
  · simp only [containerWords, List.mem_cons, List.not_mem_nil, or_false] at hmem
    rcases hmem with rfl | rfl | rfl
    · exact hcontainer
    · exact h _ (by simp [texts]) c hbreak
    · exact hopen
  · simp only [recordWords, List.mem_cons, List.not_mem_nil, or_false] at hmem
    rcases hmem with rfl | rfl | rfl
    · exact hrecord
    · exact h _ (by simp [texts]) c hbreak
    · exact hopen

theorem staysInside_field (h : ∀ text ∈ doc.texts, StaysInside text) :
    ∀ f ∈ doc.fields, StaysInside f.name :=
  fun f hmem => h f.name (by simp [texts, List.mem_map_of_mem hmem])

/-- No line holds a line end. -/
theorem not_mem_lines (h : ∀ text ∈ doc.texts, StaysInside text) :
    ∀ line ∈ doc.lines, '\n' ∉ line := by
  have hbreak : '\n' ∈ breaks := by decide
  obtain ⟨hpackage, hcontainer, hrecord⟩ := not_mem_special hbreak (by decide) h
  have hquoted : ∀ {before text after : String}, '\n' ∉ before.toList → StaysInside text →
      '\n' ∉ after.toList → '\n' ∉ (before ++ text ++ after).toList := by
    intro before text after hbefore htext hafter
    rw [String.toList_append, String.toList_append, List.mem_append, List.mem_append]
    exact not_or.mpr ⟨not_or.mpr ⟨hbefore, htext _ hbreak⟩, hafter⟩
  intro line hmem
  simp only [lines, opening, closing, List.mem_append, List.mem_cons, List.not_mem_nil,
    or_false] at hmem
  rcases hmem with ((hopening | hfield) | hclosing) | rfl
  · rcases hopening with rfl | rfl | rfl | rfl | rfl | rfl | rfl | rfl
    · decide
    · exact not_mem_joined (by decide) (hpackage (by decide))
    · have houter : StaysInside doc.outerClassname :=
        (h doc.container (by simp [texts])).append (staysInside_of_any (by decide))
      exact hquoted (by decide) houter (by decide)
    · exact List.not_mem_nil
    · exact not_mem_joined (by decide) hcontainer
    · exact List.not_mem_nil
    · exact not_mem_joined (by decide) hrecord
    · exact List.not_mem_nil
  · obtain ⟨f, hf, rfl⟩ := List.mem_map.mp hfield
    exact not_mem_joined (by decide)
      (not_mem_fieldWords (staysInside_field h f hf) (Or.inr rfl))
  · rcases hclosing with rfl | rfl | rfl | rfl | rfl
    · exact List.not_mem_nil
    · decide
    · exact List.not_mem_nil
    · exact hquoted (by decide) (h doc.record (by simp [texts])) (by decide)
    · exact List.not_mem_nil
  · decide

/-- The lines of a schema file are read as the document. -/
theorem readLines?_lines (h : ∀ text ∈ doc.texts, StaysInside text) :
    readLines? doc.lines = some doc := by
  have hquote : ∀ piece ∈ doc.packagePieces, '"' ∉ piece.toList :=
    (not_mem_special (by decide) (by decide) h).1 (by decide)
  obtain ⟨-, hcontainer, hrecord⟩ := not_mem_special (c := ' ') (by decide) (by decide) h
  rw [lines, List.append_assoc, List.append_assoc]
  unfold opening closing
  simp only [List.cons_append, List.nil_append]
  rw [readLines?, split_joined (by simp [packagePieces]) hquote,
    split_joined (by simp [containerWords]) hcontainer,
    split_joined (by simp [recordWords]) hrecord, readFields?_joined (staysInside_field h)]
  simp only [packagePieces, containerWords, recordWords, List.map_cons, List.map_nil,
    String.ofList_toList]

/-- **The reader undoes the writing**, for documents whose texts stay inside. -/
theorem decode?_render (h : ∀ text ∈ doc.texts, StaysInside text) :
    decode? doc.render = some doc := by
  have hsplit : split '\n' doc.render.toList = doc.lines := by
    rw [toList_render]
    exact split_joinWith (by simp [lines]) (not_mem_lines h)
  rw [decode?, hsplit, readLines?_lines h]
  simp

end Reading

/-! ## 4. Documents of definitions -/

/-- Extracted names stay inside. -/
theorem staysInside_of_extract? {e : Extractor} {source : String} {d : Definition}
    (h : e.extract? source = some d) {name : String} (hname : name ∈ d.name :: d.fields) :
    StaysInside name := by
  intro c hc
  obtain ⟨hlow, -, hword, -⟩ := breaks_spec hc
  exact Extractor.not_mem_name h hname (by omega) hword

/-- Lower case lets nothing out. -/
theorem StaysInside.lowercase {text : String} (h : StaysInside text) :
    StaysInside (lowercase text) := by
  intro c hc hmem
  exact h c hc (mem_of_mem_lowercase (breaks_spec hc).1 hmem)

/-- A package name that passes the check stays inside: it holds identifier characters and full
stops. -/
theorem staysInside_of_isPackage {package : String} (h : isPackage package = true) :
    StaysInside package := by
  intro c hc hmem
  obtain ⟨hlow, -, hword, hstop⟩ := breaks_spec hc
  rcases mem_of_split hmem with heq | ⟨part, hpart, hmem⟩
  · exact hstop heq
  · have hpart' := List.all_eq_true.mp h part hpart
    have hnot : isIdentifierChar c = false := by
      rw [(word_classes_of_ascii (by omega)).1]
      exact hword
    cases part with
    | nil => cases hmem
    | cons first more =>
      rw [isIdentifier, Bool.and_eq_true] at hpart'
      have hchar : isIdentifierChar c = true := by
        rcases List.mem_cons.mp hmem with rfl | hmem
        · exact isIdentifierChar_of_isIdentifierStart hpart'.1
        · exact List.all_eq_true.mp hpart'.2 c hmem
      rw [hnot] at hchar
      cases hchar

/-- Settings without a fault have a package name that passes the check. -/
theorem isPackage_of_fault? {s : Settings} (h : s.fault? = none) :
    isPackage s.javaPackage = true := by
  unfold Settings.fault? at h
  grind

theorem map_type_numbered (first : Nat) (names : List String) :
    (numbered first names).map Field.type = List.replicate names.length .double := by
  induction names generalizing first with
  | nil => rfl
  | cons name names ih => simp [numbered, ih, List.replicate_succ]

theorem map_name_numbered (first : Nat) (names : List String) :
    (numbered first names).map Field.name = names.map Text.lowercase := by
  induction names generalizing first with
  | nil => rfl
  | cons name names ih => simp [numbered, ih]

theorem map_ordinal_numbered (first : Nat) (names : List String) :
    (numbered first names).map Field.ordinal = List.range' first names.length := by
  induction names generalizing first with
  | nil => rfl
  | cons name names ih => simp [numbered, ih, List.range'_succ]

/-- All texts of the document of a definition stay inside. -/
theorem staysInside_texts {s : Settings} (hs : s.fault? = none) {e : Extractor} {source : String}
    {d : Definition} (hd : e.extract? source = some d) :
    ∀ text ∈ (ofDefinition d s.javaPackage).texts, StaysInside text := by
  have hname : StaysInside d.name := staysInside_of_extract? hd List.mem_cons_self
  intro text hmem
  simp only [texts, ofDefinition, List.map_cons, map_name_numbered, List.mem_cons,
    List.mem_map] at hmem
  rcases hmem with rfl | rfl | rfl | rfl | ⟨name, hmem, rfl⟩
  · exact staysInside_of_isPackage (isPackage_of_fault? hs)
  · exact hname.append (staysInside_of_any (by decide))
  · exact hname
  · exact staysInside_of_any (by decide)
  · exact (staysInside_of_extract? hd (List.mem_cons_of_mem _ hmem)).lowercase

/-- **The text of a schema file determines the document**, and the document says what was extracted.
For each definition that an extractor reads, and each package that passes the check of the settings,
the reader gives back the document from its text: the package, the name of the container, that of
the record, and the fields, which are the timestamp and then the extracted names in lower case, in
their order, with the ordinals from 2 on; these fit in 32 bits.  All that is put into the text stays
in its line, in its word and in its quotes, and no other such document has the same text. -/
theorem decode?_render_ofDefinition {s : Settings} (hs : s.fault? = none) {e : Extractor}
    {source : String} {d : Definition} (hd : e.extract? source = some d)
    (hlength : d.fields.length < UInt32.size - 2) {doc : Document}
    (hdoc : doc = ofDefinition d s.javaPackage) :
    decode? doc.render = some doc ∧
    doc.javaPackage = s.javaPackage ∧ doc.container = d.name ++ "Series" ∧ doc.record = d.name ∧
    doc.fields.map Field.name = "timestamp" :: d.fields.map Text.lowercase ∧
    doc.fields.map Field.type = .int32 :: List.replicate d.fields.length .double ∧
    doc.fields.map Field.ordinal = List.range' 1 (d.fields.length + 1) ∧
    (∀ f ∈ doc.fields, f.ordinal < UInt32.size) ∧
    (∀ text ∈ doc.outerClassname :: doc.texts, StaysInside text) ∧
    ∀ (s' : Settings) (e' : Extractor) (source' : String) (d' : Definition), s'.fault? = none →
      e'.extract? source' = some d' → (ofDefinition d' s'.javaPackage).render = doc.render →
        ofDefinition d' s'.javaPackage = doc := by
  have hinside := staysInside_texts hs hd
  rw [← hdoc] at hinside
  have hdecode := decode?_render hinside
  have hordinals : doc.fields.map Field.ordinal = List.range' 1 (d.fields.length + 1) := by
    rw [hdoc, ofDefinition, List.map_cons, map_ordinal_numbered, List.range'_succ]
    rfl
  refine ⟨hdecode, by rw [hdoc]; rfl, by rw [hdoc]; rfl, by rw [hdoc]; rfl, ?_, ?_, hordinals,
    fun f hmem => ?_, fun text hmem => ?_, fun s' e' source' d' hs' hd' htext => ?_⟩
  · rw [hdoc, ofDefinition, List.map_cons, map_name_numbered]
    rfl
  · rw [hdoc, ofDefinition, List.map_cons, map_type_numbered]
    rfl
  · have hmem' : f.ordinal ∈ List.range' 1 (d.fields.length + 1) := by
      rw [← hordinals]
      exact List.mem_map_of_mem hmem
    have hrange := List.mem_range'_1.mp hmem'
    omega
  · rcases List.mem_cons.mp hmem with rfl | hmem
    · exact (hinside doc.container (by simp [texts])).append (staysInside_of_any (by decide))
    · exact hinside text hmem
  · have hdecode' := decode?_render (staysInside_texts hs' hd')
    rw [htext, hdecode] at hdecode'
    exact (Option.some.inj hdecode').symm

/-- A definition with two fields of one lower case and one without a name. -/
theorem decode?_render_ofDefinition_duplicates :
    Settings.standard.fault? = none ∧
    Extractor.pattern.extract? " Foo \x7b A, a, ; " = some ⟨"Foo", ["A", "a", ""]⟩ ∧
    ["A", "a", ""].length < UInt32.size - 2 ∧
    decode? (ofDefinition ⟨"Foo", ["A", "a", ""]⟩ Settings.standard.javaPackage).render =
      some ⟨"io.hbar.protobuf.schema", "FooSeries", "Foo",
        [⟨.int32, "timestamp", 1⟩, ⟨.double, "a", 2⟩, ⟨.double, "a", 3⟩, ⟨.double, "", 4⟩]⟩ := by
  have hs : Settings.standard.fault? = none := by decide +kernel
  have hd : Extractor.pattern.extract? " Foo \x7b A, a, ; " = some ⟨"Foo", ["A", "a", ""]⟩ := by
    decide +kernel
  have hlength : ["A", "a", ""].length < UInt32.size - 2 := by decide
  have hdocument : ofDefinition ⟨"Foo", ["A", "a", ""]⟩ Settings.standard.javaPackage =
      ⟨"io.hbar.protobuf.schema", "FooSeries", "Foo",
        [⟨.int32, "timestamp", 1⟩, ⟨.double, "a", 2⟩, ⟨.double, "a", 3⟩, ⟨.double, "", 4⟩]⟩ := by
    decide +kernel
  have hdecode := (decode?_render_ofDefinition hs hd hlength rfl).1
  refine ⟨hs, hd, hlength, ?_⟩
  rw [hdecode, hdocument]

end Document

end SeriesSchema
