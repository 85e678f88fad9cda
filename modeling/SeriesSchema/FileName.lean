import SeriesSchema.Text.Lossy

/-!
# File names

The name of a file or a directory is a sequence of bytes.  As a rule these are the encoding of a
text, but the system does not ask for that: a name may also be a `Garble`, bytes that encode no
text.  Such a name has a size, an extension and a place in the order of names; but it is no text,
so that nothing can be said of the character with which it begins.

A name is determined by its bytes (`bytes_injective`).
-/

namespace SeriesSchema

/-- Bytes that are the encoding of no text. -/
structure Garble where
  bytes : List UInt8
  isUtf8_eq_false : Text.isUtf8 bytes = false
deriving DecidableEq, Repr

instance : Inhabited Garble := ⟨⟨[0xFF], by decide⟩⟩

/-- A name of a file or a directory. -/
inductive FileName
  | text (text : String)
  | garble (bytes : Garble)
deriving DecidableEq, Repr, Inhabited

instance : Coe String FileName := ⟨.text⟩

namespace FileName

/-- The bytes of a name. -/
def bytes : FileName → List UInt8
  | text name => Text.utf8 name
  | garble name => name.bytes

/-- How many bytes a name has. -/
def size : FileName → Nat
  | text name => name.utf8ByteSize
  | garble name => name.bytes.length

/-- A name as it is shown. -/
def display : FileName → String
  | text name => name
  | garble name => Text.lossy name.bytes

/-- Different names have different bytes. -/
theorem bytes_injective {a b : FileName} (h : a.bytes = b.bytes) : a = b := by
  have hne (name : String) (g : Garble) : Text.utf8 name ≠ g.bytes := by
    intro heq
    have hgarble := g.isUtf8_eq_false
    rw [← heq, Text.isUtf8_utf8] at hgarble
    cases hgarble
  cases a with
  | text name =>
    cases b with
    | text other => rw [Text.utf8_injective h]
    | garble other => exact absurd h (hne name other)
  | garble name =>
    cases b with
    | text other => exact absurd h.symm (hne other name)
    | garble other =>
      cases name
      cases other
      cases h
      rfl

/-- A name is shown as its bytes are. -/
theorem display_eq_lossy (name : FileName) : name.display = Text.lossy name.bytes := by
  cases name with
  | text name => exact (Text.lossy_utf8 name).symm
  | garble name => rfl

end FileName

end SeriesSchema
