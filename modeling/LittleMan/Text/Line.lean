import LittleMan.Text.Basic

/-!
# Lines

A text falls into lines at ten line-break characters; a carriage return directly followed by a line
feed is one break. The break is no part of a line, and a break at the very end opens no further
line. A text file is first brought to one kind of break, the line feed, which leaves the lines what
they were.
-/

namespace LittleMan

namespace Text

/-- The characters that end a line. -/
def isLineBreak (c : Char) : Bool :=
  let n := c.toNat
  (0x0A ≤ n && n ≤ 0x0D) || (0x1C ≤ n && n ≤ 0x1E) || n == 0x85 || n == 0x2028 || n == 0x2029

/-- A character put in front of the first line, which it opens if there is none. -/
def consLine (c : Char) : List Text → List Text
  | [] => [[c]]
  | line :: rest => (c :: line) :: rest

/-- The lines of a text, without their breaks. -/
def lines : Text → List Text
  | [] => []
  | '\r' :: '\n' :: rest => [] :: lines rest
  | c :: rest => if isLineBreak c then [] :: lines rest else consLine c (lines rest)

/-- The text with every carriage return, alone or followed by a line feed, made a line feed. -/
def unifyBreaks : Text → Text
  | [] => []
  | '\r' :: '\n' :: rest => '\n' :: unifyBreaks rest
  | c :: rest => (if c = '\r' then '\n' else c) :: unifyBreaks rest

/-- A line without the carriage returns and line feeds at its end. -/
def dropBreaks (line : Text) : Text :=
  dropEndWhile (fun c => c == '\r' || c == '\n') line

end Text

end LittleMan
