import LittleMan.Fault
import LittleMan.Text.Blank
import LittleMan.Text.Line

/-!
# Machine-code text

A list of words as text. The written form is one word to a line, in three digits. The form that is
read is wider: words are separated by commas or lines, blanks around them and empty places between
commas do not count, leading zeros are free as long as a numeral does not get too many digits to be
read, and a `#` opens a comment to the end of its line.
-/

namespace LittleMan

namespace MachineCode

/-- The written form of a list of words. -/
def render (words : List Int) : Text :=
  Text.closeRows (words.map (Text.zeroPadded 3))

/-- The tokens of a line that stand for words. -/
def tokens (line : Text) : List Text :=
  (((Text.before '#' line).splitOn ',').map Text.strip).filter (!·.isEmpty)

/-- The tokens of a text, each with the number of its line. -/
def numberedTokens (t : Text) : List (Nat × Text) :=
  ((Text.lines t).zipIdx 1).flatMap fun (line, number) => (tokens line).map (number, ·)

/-- Reads the word of a token on a given line. -/
def readToken : Nat × Text → Except Fault.Cause Int
  | (line, token) => match Text.numeral? token with
    | none => .error (.notANumeral line token)
    | some (.error o) => .error (.overflow o)
    | some (.ok value) => if value ≤ 999 then .ok value else .error (.numeralTooLarge line token)

/-- The words of a text; the first token that cannot be read or is no word is refused. -/
def parse (t : Text) : Except Fault.Cause (List Int) :=
  (numberedTokens t).mapM readToken

end MachineCode

end LittleMan
