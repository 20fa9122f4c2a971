import LittleMan.Text.Basic

/-!
# Blank characters

Fields, words and names are set apart by blank characters. The class is wider than the ASCII
space: it holds the controls that separate or end lines, the no-break space, and the Unicode
separators of every width. The zero-width space, the byte order mark and NUL are not blank.
-/

namespace LittleMan

namespace Text

/-- The characters that separate fields. -/
def isBlank (c : Char) : Bool :=
  let n := c.toNat
  (0x09 ≤ n && n ≤ 0x0D) || (0x1C ≤ n && n ≤ 0x20) || n == 0x85 || n == 0xA0 || n == 0x1680 ||
    (0x2000 ≤ n && n ≤ 0x200A) || n == 0x2028 || n == 0x2029 || n == 0x202F || n == 0x205F ||
    n == 0x3000

/-- The text without the blanks at its two ends. -/
def strip (t : Text) : Text :=
  dropEndWhile isBlank (t.dropWhile isBlank)

/-- The maximal runs of characters that are not blank, in order. -/
def fields (t : Text) : List Text :=
  (t.splitOnP isBlank).filter (!·.isEmpty)

end Text

end LittleMan
