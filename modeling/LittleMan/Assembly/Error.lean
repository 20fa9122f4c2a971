import LittleMan.Text.Numeral
import LittleMan.Word

/-!
# Errors of an assembly

An error has a cause, from which its kind and its reason in words follow, and the source line it is
about. One cause is no fault of the source: a literal with more digits than are read. It stops the
assembly at once, and what is told of it does not name the line.
-/

namespace LittleMan

namespace Assembly

/-- What can be wrong with a source line. -/
inductive Cause where
  /-- The line has more than three fields. -/
  | tooManyFields (count : Nat)
  /-- The label is not formed as a name. -/
  | invalidLabel (name : Text)
  /-- The label is a mnemonic. -/
  | reservedLabel (name : Text)
  /-- An earlier line has the same label; it is placed at `address`. -/
  | duplicateLabel (name : Text) (address : Nat)
  /-- There is no mailbox left for the statement. -/
  | programTooLarge
  /-- The literal is negative or above `limit`. -/
  | operandOutOfRange (limit : Nat) (literal : Text)
  /-- The operand is neither a literal nor formed as a name. -/
  | invalidOperand (operand : Text)
  /-- No line has the label that the operand names. -/
  | undefinedLabel (name : Text)
  /-- The instruction has no operand. -/
  | unexpectedOperand (mnemonic operand : Text)
  /-- The instruction needs an operand. -/
  | missingOperand (mnemonic : Text)
  /-- There is no such mnemonic. -/
  | unknownMnemonic (mnemonic : Text)
  /-- The literal has too many digits to be read. -/
  | unreadable (o : Text.Overflow)
deriving DecidableEq, Repr

/-- Whether the assembly stops at once, with this cause and without the errors found so far. -/
def Cause.stops : Cause → Bool
  | unreadable _ => true
  | _ => false

/-- The name under which the kind of an error is reported. -/
def Cause.kindName : Cause → Text
  | duplicateLabel _ _ => "DuplicateLabel"
  | programTooLarge => "ProgramTooLarge"
  | operandOutOfRange _ _ => "OperandOutOfRange"
  | undefinedLabel _ => "UndefinedLabel"
  | unknownMnemonic _ => "UnknownMnemonic"
  | tooManyFields _ | invalidLabel _ | reservedLabel _ | invalidOperand _ | unexpectedOperand _ _
  | missingOperand _ => "AssemblerError"
  | unreadable _ => Text.Overflow.kindName

/-- A cause in words. -/
def Cause.reason : Cause → Text
  | tooManyFields count =>
    "Too many fields (" ++ Text.digits count ++ "): expected [label] mnemonic [operand]"
  | invalidLabel name => "Invalid label: '" ++ name ++ "'"
  | reservedLabel name => "Label '" ++ name ++ "' is a reserved mnemonic"
  | duplicateLabel name address =>
    "Duplicate label: '" ++ name ++ "' (already at mailbox " ++ Text.zeroPadded 2 address ++ ")"
  | programTooLarge =>
    "Program too large: more than " ++ Text.digits mailboxCount ++ " mailboxes"
  | operandOutOfRange limit literal =>
    "Operand out of range 0-" ++ Text.digits limit ++ ": " ++ literal
  | invalidOperand operand => "Invalid operand: '" ++ operand ++ "'"
  | undefinedLabel name => "Undefined label: '" ++ name ++ "'"
  | unexpectedOperand mnemonic operand =>
    mnemonic ++ " takes no operand (got '" ++ operand ++ "')"
  | missingOperand mnemonic => mnemonic ++ ": missing operand"
  | unknownMnemonic mnemonic => "Unknown mnemonic: " ++ mnemonic
  | unreadable o => o.message

/-- An error and the line it is about. -/
structure Error where
  cause : Cause
  /-- The number of the line, counted from one; zero stands for no line in particular. -/
  line : Int
  /-- The line as it was given. -/
  text : Text
deriving DecidableEq, Repr

/-- An error in words. -/
def Error.message (e : Error) : Text :=
  if e.line = 0 ∨ e.cause.stops then e.cause.reason
  else "Line " ++ Text.decimal e.line ++ ": " ++ e.cause.reason

end Assembly

end LittleMan
