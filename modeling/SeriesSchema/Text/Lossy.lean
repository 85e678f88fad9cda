import SeriesSchema.Text.Bytes

/-!
# Bytes shown as text

Bytes are shown as the text that they encode, with a replacement character for what encodes none.
There is one for each longest run of bytes with which a character could begin, and one for each
byte with which none can.

The bytes are taken one by one.  Between two bytes a character may be `Pending`; the bounds for its
next byte are those of the encoding, which leave out characters encoded at too great length,
surrogates and what lies beyond the last code point.  The encoding of a text is shown as that text
(`lossy_utf8`).
-/

namespace SeriesSchema.Text

/-! ## 1. Decoding -/

/-- The character that stands for bytes that encode none. -/
def replacement : Char := '\uFFFD'

/-- A character of which some bytes have been taken. -/
structure Pending where
  /-- how many bytes are to come -/
  owed : Nat
  /-- the bounds of the next byte -/
  low : Nat
  high : Nat
  /-- the code point as far as it is known -/
  code : Nat

/-- What a byte comes to between two characters: characters to show, and one that is pending. -/
def firstByte (n : Nat) : List Char × Option Pending :=
  if n ≤ 0x7F then ([Char.ofNat n], none)
  else if n < 0xC2 then ([replacement], none)
  else if n ≤ 0xDF then ([], some ⟨1, 0x80, 0xBF, n - 0xC0⟩)
  else if n = 0xE0 then ([], some ⟨2, 0xA0, 0xBF, 0x0⟩)
  else if n = 0xED then ([], some ⟨2, 0x80, 0x9F, 0xD⟩)
  else if n ≤ 0xEF then ([], some ⟨2, 0x80, 0xBF, n - 0xE0⟩)
  else if n = 0xF0 then ([], some ⟨3, 0x90, 0xBF, 0x0⟩)
  else if n ≤ 0xF3 then ([], some ⟨3, 0x80, 0xBF, n - 0xF0⟩)
  else if n = 0xF4 then ([], some ⟨3, 0x80, 0x8F, 0x4⟩)
  else ([replacement], none)

/-- What a byte comes to.  One that does not go on with the pending character ends it, and is taken
as the first byte of another. -/
def nextByte : Option Pending → Nat → List Char × Option Pending
  | none, n => firstByte n
  | some p, n =>
    if p.low ≤ n ∧ n ≤ p.high then
      let code := p.code * 64 + (n - 0x80)
      if p.owed = 1 then ([Char.ofNat code], none)
      else ([], some ⟨p.owed - 1, 0x80, 0xBF, code⟩)
    else (replacement :: (firstByte n).1, (firstByte n).2)

/-- The characters that bytes are shown as, behind a pending one. -/
def lossyFrom (pending : Option Pending) : List UInt8 → List Char
  | [] => if pending.isSome then [replacement] else []
  | b :: bytes =>
    (nextByte pending b.toNat).1 ++ lossyFrom (nextByte pending b.toNat).2 bytes

/-- The text that bytes are shown as. -/
def lossy (bytes : List UInt8) : String :=
  String.ofList (lossyFrom none bytes)

/-! ## 2. Texts -/

theorem lossyFrom_cons {n : Nat} (hn : n < 256) (pending : Option Pending) (bytes : List UInt8) :
    lossyFrom pending (UInt8.ofNat n :: bytes) =
      (nextByte pending n).1 ++ lossyFrom (nextByte pending n).2 bytes := by
  rw [lossyFrom, UInt8.toNat_ofNat_of_lt' hn]

section Steps

variable {n owed low high code : Nat} {bytes : List UInt8}

/-- A byte that leaves a character pending. -/
theorem lossyFrom_first {p : Pending} (hn : n < 256) (h : firstByte n = ([], some p)) :
    lossyFrom none (UInt8.ofNat n :: bytes) = lossyFrom (some p) bytes := by
  rw [lossyFrom_cons hn, nextByte, h]
  rfl

/-- A byte that goes on with the pending character, and is not its last one. -/
theorem lossyFrom_goesOn (hn : n < 256) (howed : owed ≠ 1) (hlow : low ≤ n) (hhigh : n ≤ high) :
    lossyFrom (some ⟨owed, low, high, code⟩) (UInt8.ofNat n :: bytes) =
      lossyFrom (some ⟨owed - 1, 0x80, 0xBF, code * 64 + (n - 0x80)⟩) bytes := by
  rw [lossyFrom_cons hn, nextByte, if_pos ⟨hlow, hhigh⟩, if_neg howed]
  rfl

/-- The last byte of the pending character. -/
theorem lossyFrom_last (hn : n < 256) (hlow : low ≤ n) (hhigh : n ≤ high) :
    lossyFrom (some ⟨1, low, high, code⟩) (UInt8.ofNat n :: bytes) =
      Char.ofNat (code * 64 + (n - 0x80)) :: lossyFrom none bytes := by
  rw [lossyFrom_cons hn, nextByte, if_pos ⟨hlow, hhigh⟩, if_pos rfl]
  rfl

end Steps

/-- What the first byte of two comes to. -/
theorem firstByte_two {v : Nat} (hlow : 0x7F < v) (hhigh : v ≤ 0x7FF) :
    firstByte (v / 64 % 32 + 192) = ([], some ⟨1, 0x80, 0xBF, v / 64⟩) := by
  have hcode : v / 64 % 32 + 192 - 0xC0 = v / 64 := by omega
  rw [firstByte, if_neg (by omega), if_neg (by omega), if_pos (by omega), hcode]

/-- What the first byte of three comes to: the second is within the bounds. -/
theorem firstByte_three {v : Nat} (hlow : 0x7FF < v) (hhigh : v ≤ 0xFFFF)
    (hvalid : v < 0xD800 ∨ 0xDFFF < v) :
    ∃ low high, firstByte (v / 4096 % 16 + 224) = ([], some ⟨2, low, high, v / 4096⟩) ∧
      low ≤ v / 64 % 64 + 128 ∧ v / 64 % 64 + 128 ≤ high := by
  have hcode : v / 4096 % 16 + 224 - 0xE0 = v / 4096 := by omega
  rw [firstByte, if_neg (by omega), if_neg (by omega), if_neg (by omega)]
  split
  · have : v / 4096 = 0 := by omega
    exact ⟨_, _, by rw [this], by omega, by omega⟩
  split
  · have : v / 4096 = 0xD := by omega
    exact ⟨_, _, by rw [this], by omega, by omega⟩
  · rw [if_pos (by omega)]
    exact ⟨_, _, by rw [hcode], by omega, by omega⟩

/-- What the first byte of four comes to: the second is within the bounds. -/
theorem firstByte_four {v : Nat} (hlow : 0xFFFF < v) (hhigh : v < 0x110000) :
    ∃ low high, firstByte (v / 262144 % 8 + 240) = ([], some ⟨3, low, high, v / 262144⟩) ∧
      low ≤ v / 4096 % 64 + 128 ∧ v / 4096 % 64 + 128 ≤ high := by
  have hcode : v / 262144 % 8 + 240 - 0xF0 = v / 262144 := by omega
  rw [firstByte, if_neg (by omega), if_neg (by omega), if_neg (by omega), if_neg (by omega),
    if_neg (by omega), if_neg (by omega)]
  split
  · have : v / 262144 = 0 := by omega
    exact ⟨_, _, by rw [this], by omega, by omega⟩
  split
  · exact ⟨_, _, by rw [hcode], by omega, by omega⟩
  · have : v / 262144 = 4 := by omega
    rw [if_pos (by omega)]
    exact ⟨_, _, by rw [this], by omega, by omega⟩

/-- **The bytes of a character** are shown as this character. -/
theorem lossyFrom_utf8EncodeChar (c : Char) (bytes : List UInt8) :
    lossyFrom none (String.utf8EncodeChar c ++ bytes) = c :: lossyFrom none bytes := by
  obtain ⟨v, hv⟩ : ∃ v, v = c.toNat := ⟨_, rfl⟩
  have hc : c = Char.ofNat v := by rw [hv, Char.ofNat_toNat]
  have hvalid : v < 0xD800 ∨ 0xDFFF < v ∧ v < 0x110000 := hv ▸ c.valid
  have hencoded : String.utf8EncodeChar c =
      if v ≤ 127 then [UInt8.ofNat v]
      else if v ≤ 2047 then [UInt8.ofNat (v / 64 % 32 + 192), UInt8.ofNat (v % 64 + 128)]
      else if v ≤ 65535 then
        [UInt8.ofNat (v / 4096 % 16 + 224), UInt8.ofNat (v / 64 % 64 + 128),
          UInt8.ofNat (v % 64 + 128)]
      else
        [UInt8.ofNat (v / 262144 % 8 + 240), UInt8.ofNat (v / 4096 % 64 + 128),
          UInt8.ofNat (v / 64 % 64 + 128), UInt8.ofNat (v % 64 + 128)] := by
    rw [hv]
    rfl
  rw [hencoded, hc]
  split
  · rename_i hone
    have hfirst : nextByte none v = ([Char.ofNat v], none) := if_pos hone
    rw [List.singleton_append, lossyFrom_cons (by omega), hfirst]
    rfl
  split
  · rename_i htwo
    have hcode : v / 64 * 64 + (v % 64 + 128 - 0x80) = v := by omega
    rw [List.cons_append, List.singleton_append,
      lossyFrom_first (by omega) (firstByte_two (by omega) htwo),
      lossyFrom_last (by omega) (by omega) (by omega), hcode]
  split
  · rename_i hthree
    obtain ⟨low, high, hfirst, hlow, hhigh⟩ :=
      firstByte_three (v := v) (by omega) hthree (by omega)
    have hcode : (v / 4096 * 64 + (v / 64 % 64 + 128 - 0x80)) * 64 + (v % 64 + 128 - 0x80) = v := by
      omega
    rw [List.cons_append, List.cons_append, List.singleton_append,
      lossyFrom_first (by omega) hfirst,
      lossyFrom_goesOn (by omega) (by omega) hlow hhigh,
      lossyFrom_last (by omega) (by omega) (by omega), hcode]
  · obtain ⟨low, high, hfirst, hlow, hhigh⟩ := firstByte_four (v := v) (by omega) (by omega)
    have hcode : ((v / 262144 * 64 + (v / 4096 % 64 + 128 - 0x80)) * 64 +
        (v / 64 % 64 + 128 - 0x80)) * 64 + (v % 64 + 128 - 0x80) = v := by
      omega
    rw [List.cons_append, List.cons_append, List.cons_append, List.singleton_append,
      lossyFrom_first (by omega) hfirst,
      lossyFrom_goesOn (by omega) (by omega) hlow hhigh,
      lossyFrom_goesOn (by omega) (by omega) (by omega) (by omega),
      lossyFrom_last (by omega) (by omega) (by omega), hcode]

/-- **The encoding of a text is shown as the text.** -/
theorem lossy_utf8 (text : String) : lossy (utf8 text) = text := by
  have hfrom (cs : List Char) : lossyFrom none (cs.flatMap String.utf8EncodeChar) = cs := by
    induction cs with
    | nil => rfl
    | cons c cs ih => rw [List.flatMap_cons, lossyFrom_utf8EncodeChar, ih]
  rw [lossy, utf8_eq_flatMap, hfrom, String.ofList_toList]

end SeriesSchema.Text
