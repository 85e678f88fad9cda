import SeriesSchema.Text.Word
import SeriesSchema.Definition

/-!
# Separated words

The reading of a source text that goes by two patterns alone and knows no structure, neither
comments nor literals.

* A *field* is a blank, a run of word characters, and `,` or `;`.
* The *type* is a blank, a run of word characters, any number of blanks, and `{`.

The runs may be empty, and so may the names.  A search goes from left to right: it takes the first
place where the pattern fits, and goes on behind what it took.  Blanks, word characters and the
signs `,`, `;`, `{` exclude each other, so that at a given place a pattern fits in one way at most,
with its runs as long as they can be.
-/

namespace SeriesSchema.SeparatedWord

open Text

/-! ## 1. Fields -/

/-- Whether a character ends a field. -/
def isSeparator (c : Char) : Bool :=
  c == ',' || c == ';'

/-- The field that stands at the head of the text, and the text behind it. -/
def fieldHere? : List Char → Option (String × List Char)
  | [] => none
  | c :: cs =>
    if isBlank c then
      match cs.dropWhile isWordChar with
      | s :: rest =>
        if isSeparator s then some (String.ofList (cs.takeWhile isWordChar), rest) else none
      | [] => none
    else none

/-- What is behind a field is shorter. -/
theorem length_lt_of_fieldHere? {text rest : List Char} {name : String}
    (h : fieldHere? text = some (name, rest)) : rest.length < text.length := by
  rw [fieldHere?.eq_def] at h
  split at h
  · simp at h
  · rename_i c cs
    split at h
    · split at h
      · rename_i s behind hdrop
        split at h
        · obtain ⟨_, rfl⟩ : _ ∧ behind = rest := by simpa using h
          have := (List.dropWhile_suffix isWordChar (l := cs)).length_le
          rw [hdrop] at this
          simp only [List.length_cons] at this ⊢
          omega
        · simp at h
      · simp at h
    · simp at h

/-- The fields of a text, in order. -/
def fields (text : List Char) : List String :=
  match _h : fieldHere? text with
  | some (name, rest) => name :: fields rest
  | none =>
    match text with
    | [] => []
    | _ :: cs => fields cs
termination_by text.length
decreasing_by
  · exact length_lt_of_fieldHere? _h
  · simp_wf

/-! ## 2. The type -/

/-- The name of the type whose pattern stands at the head of the text. -/
def typeHere? : List Char → Option String
  | [] => none
  | c :: cs =>
    if isBlank c && ((cs.dropWhile isWordChar).dropWhile isBlank).head? == some '\x7b'
    then some (String.ofList (cs.takeWhile isWordChar))
    else none

/-- The name of the first type of a text. -/
def typeName? : List Char → Option String
  | [] => none
  | c :: cs =>
    match typeHere? (c :: cs) with
    | some name => some name
    | none => typeName? cs

/-- The definition of a source text, if the pattern of a type occurs in it. -/
def read? (source : String) : Option Definition :=
  (typeName? source.toList).map fun name => ⟨name, fields source.toList⟩

end SeriesSchema.SeparatedWord
