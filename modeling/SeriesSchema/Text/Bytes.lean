/-!
# Bytes

A text as the bytes of its encoding.  Names are listed, and fields of log filters ranked, in the
order of these lists.  Different texts have different bytes (`utf8_injective`), so that the order
tells any two names apart.  Not all bytes are the encoding of a text (`isUtf8`); but in one that is,
a full stop can be told by its byte (`dot_mem_utf8`).
-/

namespace SeriesSchema.Text

/-- The bytes of a text. -/
def utf8 (text : String) : List UInt8 :=
  text.toUTF8.toList

/-- The bytes of an array are listed from a position on, behind what was listed before. -/
theorem toList_loop_eq (bytes : ByteArray) (i : Nat) (before : List UInt8) :
    ByteArray.toList.loop bytes i before = before.reverse ++ bytes.data.toList.drop i := by
  fun_induction ByteArray.toList.loop bytes i before with
  | case1 i before h ih =>
    have hi : i < bytes.data.toList.length := by simpa using h
    have hbyte : bytes.get! i = bytes.data.toList[i] := by
      rw [Array.getElem_toList]
      exact getElem!_pos bytes.data i h
    rw [ih, List.drop_eq_getElem_cons hi, hbyte]
    simp
  | case2 i before h =>
    have hi : bytes.data.toList.length ≤ i := by simpa using h
    simp [List.drop_eq_nil_of_le hi]

theorem utf8_eq_toByteArray (text : String) : utf8 text = text.toByteArray.data.toList := by
  simp [utf8, ByteArray.toList, toList_loop_eq]

/-- The bytes of a text are those of its characters. -/
theorem utf8_eq_flatMap (text : String) :
    utf8 text = text.toList.flatMap String.utf8EncodeChar := by
  rw [utf8_eq_toByteArray, ← String.utf8Encode_toList, List.utf8Encode]
  simp

/-- A text is determined by its bytes. -/
theorem utf8_injective {a b : String} (h : utf8 a = utf8 b) : a = b := by
  rw [utf8_eq_toByteArray, utf8_eq_toByteArray] at h
  rw [← String.toByteArray_inj]
  exact ByteArray.ext (Array.toList_inj.mp h)

/-- Whether bytes are the encoding of a text. -/
def isUtf8 (bytes : List UInt8) : Bool :=
  ByteArray.validateUTF8 ⟨bytes.toArray⟩

/-- The bytes of a text are its encoding. -/
theorem isUtf8_utf8 (text : String) : isUtf8 (utf8 text) = true := by
  rw [isUtf8, utf8_eq_toByteArray, Array.toArray_toList, ByteArray.validateUTF8_eq_true_iff]
  exact text.isValidUTF8

/-- The bytes of a character beyond ASCII are beyond ASCII too. -/
theorem le_toNat_of_mem_utf8EncodeChar {c : Char} (hc : 128 ≤ c.toNat) :
    ∀ b ∈ String.utf8EncodeChar c, 128 ≤ b.toNat := by
  have hcode : c.val.toNat = c.toNat := rfl
  have hnone : ∀ b ∈ ([] : List UInt8), 128 ≤ b.toNat := nofun
  rw [String.utf8EncodeChar]
  simp only [hcode]
  split
  · omega
  · split
    · simp only [List.forall_mem_cons, UInt8.toNat_ofNat']
      exact ⟨by omega, by omega, hnone⟩
    · split
      · simp only [List.forall_mem_cons, UInt8.toNat_ofNat']
        exact ⟨by omega, by omega, by omega, hnone⟩
      · simp only [List.forall_mem_cons, UInt8.toNat_ofNat']
        exact ⟨by omega, by omega, by omega, by omega, hnone⟩

/-- A full stop is encoded by one byte, which stands for nothing else. -/
theorem dot_mem_utf8EncodeChar {c : Char} : 0x2E ∈ String.utf8EncodeChar c ↔ c = '.' := by
  constructor
  · intro h
    by_cases hc : 128 ≤ c.toNat
    · exact absurd (le_toNat_of_mem_utf8EncodeChar hc _ h) (by decide)
    · have hcode : c.val.toNat = c.toNat := rfl
      have hascii : c.toNat < 256 := by omega
      rw [String.utf8EncodeChar, if_pos (by omega), List.mem_singleton] at h
      have hbyte := congrArg UInt8.toNat h
      rw [hcode, UInt8.toNat_ofNat_of_lt' hascii] at hbyte
      exact Char.toNat_inj.mp hbyte.symm
  · rintro rfl
    decide

theorem dot_mem_utf8 {text : String} : 0x2E ∈ utf8 text ↔ '.' ∈ text.toList := by
  rw [utf8_eq_flatMap, List.mem_flatMap]
  simp only [dot_mem_utf8EncodeChar, exists_eq_right]

end SeriesSchema.Text
