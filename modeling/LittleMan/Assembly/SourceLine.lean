import LittleMan.Assembly.Error
import LittleMan.Assembly.Mnemonic
import LittleMan.Text.Blank

/-!
# Source lines

A source line is read by itself. A `#` opens a comment; what stands before it falls into at most
three fields, a label, a mnemonic and an operand, of which only the mnemonic must be there:

  [label] MNEMONIC [operand]   # comment

Of two fields the first is the mnemonic if it is one, and a label otherwise. A label is formed as a
name, may be closed by a colon, and must not be a mnemonic.
-/

namespace LittleMan

namespace Assembly

/-- What a line asks to be placed, and the label it gives to the place. -/
structure Statement where
  label : Option Text
  /-- The mnemonic in upper case; whether there is such a mnemonic is asked later. -/
  mnemonic : Text
  operand : Option Text
deriving DecidableEq, Repr

/-- A source line that could be read. -/
structure SourceLine where
  number : Int
  text : Text
  comment : Option Text
  statement : Option Statement
deriving DecidableEq, Repr

/-- Whether a character may open a name. -/
def opensName (c : Char) : Bool :=
  c.isAlpha || c == '_'

/-- Whether a text is formed as a name: letters, digits and underscores of ASCII, no digit first. -/
def isName : Text → Bool
  | [] => false
  | c :: rest => opensName c && rest.all fun d => opensName d || d.isDigit

/-- The fields of a line as a statement, its label and mnemonic as they are written. -/
def arrange : List Text → Except Cause (Option Statement)
  | [] => .ok none
  | [mnemonic] => .ok (some ⟨none, mnemonic, none⟩)
  | [first, second] =>
    if isMnemonic first then .ok (some ⟨none, first, some second⟩)
    else .ok (some ⟨some first, second, none⟩)
  | [label, mnemonic, operand] => .ok (some ⟨some label, mnemonic, some operand⟩)
  | fields => .error (.tooManyFields fields.length)

/-- The name that a label field gives: the field without one colon at its end. -/
def labelName (field : Text) : Text :=
  if field.getLast? = some ':' then field.dropLast else field

/-- The name of a label field, if it may be one. -/
def checkLabel (field : Text) : Except Cause Text :=
  let name := labelName field
  if !isName name then .error (.invalidLabel name)
  else if isMnemonic name then .error (.reservedLabel name)
  else .ok name

/-- A statement with its label checked and its mnemonic in upper case. -/
def Statement.check (s : Statement) : Except Cause Statement :=
  match s.label with
  | none => .ok { s with mnemonic := Text.upper s.mnemonic }
  | some field => match checkLabel field with
    | .error cause => .error cause
    | .ok name => .ok { s with label := some name, mnemonic := Text.upper s.mnemonic }

/-- The statement of a line, if it has one. -/
def statement? (line : Text) : Except Cause (Option Statement) :=
  match arrange (Text.fields (Text.before '#' line)) with
  | .error cause => .error cause
  | .ok none => .ok none
  | .ok (some s) => match s.check with
    | .error cause => .error cause
    | .ok checked => .ok (some checked)

/-- Reads a line of a given number. -/
def SourceLine.parse (number : Int) (line : Text) : Except Error SourceLine :=
  match statement? line with
  | .error cause => .error ⟨cause, number, line⟩
  | .ok statement => .ok ⟨number, line, (Text.after? '#' line).map Text.strip, statement⟩

end Assembly

end LittleMan
