import LittleMan.Datum
import LittleMan.Text.Blank
import LittleMan.Text.Line

/-!
# Test records

A test record gives a program its inputs and says what to expect: a name, the inputs, the value that
must be written last, and the budget of the run. On a line it is four fields separated by
semicolons, the inputs separated by commas:

  name;in1,in2,...,inN;result;max_cycles

Inputs and result may be left out; without a result the program must only halt. Blanks around fields
and inputs do not count, and numbers may have leading zeros. In a test file, blank lines and lines
that open with `#` are skipped, and every other line is a record or is malformed.

A numeral with too many digits to be read makes a line neither a record nor malformed: the reading
overflows, and that of the whole file with it.
-/

namespace LittleMan

namespace Batch

/-- A test record. -/
structure Record where
  name : Text
  inputs : List Datum := []
  /-- The value that must be written last, if there is to be one. -/
  expected : Option Int := none
  /-- The number of instructions within which the program must halt; the default budget of a run if
  none is given. -/
  budget : Option Int := some 0
deriving DecidableEq, Repr

namespace Record

/-- The fields of a record that hold words. -/
inductive WordField where
  | input
  | result
deriving DecidableEq, Repr

/-- The name of a field that holds words. -/
def WordField.name : WordField → Text
  | input => "input"
  | result => "expected result"

/-- What can be wrong with the line of a record. -/
inductive Cause where
  | fieldCount (count : Nat)
  | emptyName
  | notDecimal (field : WordField) (text : Text)
  | tooLarge (field : WordField) (text : Text)
  | emptyBudget
  | badBudget (text : Text)
deriving DecidableEq, Repr

/-- Why the fields of a line give no record. -/
inductive Defect where
  /-- They do not follow the format. -/
  | malformed (cause : Cause)
  /-- A numeral has too many digits to be read. -/
  | overflow (o : Text.Overflow)
deriving DecidableEq, Repr

/-- A cause in words. -/
def Cause.reason : Cause → Text
  | fieldCount count => "expected 4 ';'-separated fields, got " ++ Text.digits count
  | emptyName => "test name is empty"
  | notDecimal field text => field.name ++ " is not a decimal number: '" ++ text ++ "'"
  | tooLarge field text => field.name ++ " out of range 000-999: " ++ text
  | emptyBudget => "max_cycles is empty"
  | badBudget text => "max_cycles is not a non-negative integer: '" ++ text ++ "'"

/-- A malformed line: what is wrong with it, its number (zero stands for none) and its text. -/
structure Error where
  cause : Cause
  line : Int
  text : Text
deriving DecidableEq, Repr

/-- The name under which a malformed line is reported. -/
def Error.kindName : Text :=
  "MalformedTestRecord"

/-- An error in words. -/
def Error.message (e : Error) : Text :=
  if e.line = 0 then e.cause.reason
  else "Line " ++ Text.decimal e.line ++ ": " ++ e.cause.reason

/-- Why a line gives no record. -/
inductive Refusal where
  /-- It is malformed. -/
  | malformed (e : Error)
  /-- A number has too many digits to be read, or to be told in the error. -/
  | overflow (o : Text.Overflow)
deriving DecidableEq, Repr

/-- Reads a word. -/
def readWord (field : WordField) (text : Text) : Except Defect Int :=
  match Text.numeral? text with
  | none => .error (.malformed (.notDecimal field text))
  | some (.error o) => .error (.overflow o)
  | some (.ok value) =>
    if value ≤ 999 then .ok value else .error (.malformed (.tooLarge field text))

/-- Reads the inputs. -/
def readInputs (text : Text) : Except Defect (List Int) :=
  if text.isEmpty then .ok []
  else (text.splitOn ',').mapM fun token => readWord .input (Text.strip token)

/-- Reads the result, if there is one. -/
def readResult (text : Text) : Except Defect (Option Int) :=
  if text.isEmpty then .ok none else some <$> readWord .result text

/-- Reads the budget. -/
def readBudget (text : Text) : Except Defect Nat :=
  if text.isEmpty then .error (.malformed .emptyBudget)
  else match Text.numeral? text with
    | none => .error (.malformed (.badBudget text))
    | some (.error o) => .error (.overflow o)
    | some (.ok value) => .ok value

/-- The fields of a line. -/
def fields (line : Text) : List Text :=
  ((Text.strip line).splitOn ';').map Text.strip

/-- Reads a record from its fields. Of several faults the first field in order counts. -/
def ofFields : List Text → Except Defect Record
  | [name, inputs, result, budget] =>
    if name.isEmpty then .error (.malformed .emptyName)
    else do
      let inputs ← readInputs inputs
      let expected ← readResult result
      let budget ← readBudget budget
      return ⟨name, inputs.map .integer, expected, some budget⟩
  | other => .error (.malformed (.fieldCount other.length))

/-- The refusal of a malformed line, whose number must be written if it has one. -/
def refuse (e : Error) : Refusal :=
  match Text.withIntegers [e.line] e.message with
  | .ok _ => .malformed e
  | .error o => .overflow o

/-- Reads the record on a line of a given number. -/
def parse (number : Int) (line : Text) : Except Refusal Record :=
  match ofFields (fields line) with
  | .ok r => .ok r
  | .error (.malformed cause) => .error (refuse ⟨cause, number, line⟩)
  | .error (.overflow o) => .error (.overflow o)

/-- Whether a line of a test file, blanks removed at its ends, is to be read. -/
def isRecordLine (line : Text) : Bool :=
  !line.isEmpty && line.head? != some '#'

/-- What a test file holds in the place of a line: its record, or the error of a malformed one. -/
def entry (number : Int) (line : Text) : Except Text.Overflow (Except Error Record) :=
  match parse number line with
  | .ok r => .ok (.ok r)
  | .error (.malformed e) => .ok (.error e)
  | .error (.overflow o) => .error o

/-- The lines of a test file that are to be read, blanks removed at their ends, with their
numbers. -/
def numberedLines (t : Text) : List (Nat × Text) :=
  (((Text.lines t).zipIdx 1).map fun (line, number) => (number, Text.strip line)).filter
    (isRecordLine ·.2)

/-- The records and the malformed lines of a test file, in order. -/
def scan (t : Text) : Except Text.Overflow (List (Except Error Record)) :=
  (numberedLines t).mapM fun (number, line) => entry number line

/-- The records of a test file; the first malformed line is refused. -/
def parseFile (t : Text) : Except Refusal (List Record) :=
  match scan t with
  | .error o => .error (.overflow o)
  | .ok entries => (entries.mapM id).mapError .malformed

end Record

end Batch

end LittleMan
