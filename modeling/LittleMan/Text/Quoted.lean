import LittleMan.Text.Printable

/-!
# Quoted text

A message that names a file or shows a piece of data quotes it: single quotes, or double quotes
around a text that holds single ones and no double one. Inside, the quote itself and the backslash
are escaped by a backslash, and what is not printable is named by an escape.
-/

namespace LittleMan

namespace Text

/-- A number in lower-case hexadecimal, filled with zeros to at least `width` digits. -/
def hexPadded (width n : Nat) : Text :=
  (Nat.toDigits 16 n).leftpad width '0'

/-- A character as it stands between two `mark`s. -/
def escapeChar (mark c : Char) : Text :=
  if c = mark ∨ c = '\\' then ['\\', c]
  else if c = '\n' then "\\n"
  else if c = '\r' then "\\r"
  else if c = '\t' then "\\t"
  else if isPrintable c then [c]
  else if c.toNat < 0x100 then "\\x" ++ hexPadded 2 c.toNat
  else if c.toNat < 0x10000 then "\\u" ++ hexPadded 4 c.toNat
  else "\\U" ++ hexPadded 8 c.toNat

/-- The quotation mark a text is put between. -/
def quoteMark (t : Text) : Char :=
  if '\'' ∈ t ∧ '"' ∉ t then '"' else '\''

/-- A text between quotation marks. -/
def quoted (t : Text) : Text :=
  quoteMark t :: t.flatMap (escapeChar (quoteMark t)) ++ [quoteMark t]

end Text

end LittleMan
