import SeriesSchema.Text.Ranges

/-!
# Blank characters

The property `White_Space` of the Unicode character database: tabs, line ends, the space and its
relatives of other widths, but neither the zero-width space nor the byte order mark.
-/

namespace SeriesSchema.Text

/-- The code points with the property `White_Space`. -/
def blankRanges : Ranges :=
  [(0x9, 0xD), (0x20, 0x20), (0x85, 0x85), (0xA0, 0xA0), (0x1680, 0x1680), (0x2000, 0x200A),
   (0x2028, 0x2029), (0x202F, 0x202F), (0x205F, 0x205F), (0x3000, 0x3000)]

theorem blankRanges_ascends : blankRanges.ascendsFrom 0x9 = true := by decide

/-- Whether a character is blank. -/
def isBlank (c : Char) : Bool :=
  blankRanges.has c.toNat

end SeriesSchema.Text
