import LittleMan.Datum

/-!
# Faults of the machine

What the machine refuses or cannot carry out is a fault. A fault has a cause, from which its kind
and its reason in words follow, and a place: the instruction that failed is told by its mailbox and
by the number of the cycle it would have been. Loading and direct access to memory have no place.

Not all that ends a request is a fault of the machine's own kinds. Whoever watches a mailbox may
raise anything; and a fault with a number that has too many digits to be written cannot be put into
words, so that the overflow is reported in its place.
-/

namespace LittleMan

namespace Fault

/-- The kinds of fault. -/
inductive Kind where
  /-- A fault of no particular kind. -/
  | general
  | addressOutOfRange
  | invalidWord
  | programTooLarge
  | invalidOpcode
  | inputTrayUnderflow
  /-- None of the machine's own, under the name that it has where it comes from. -/
  | foreign (name : Text)
deriving DecidableEq, Repr

/-- Whether a kind is one of the machine's own. -/
def Kind.isOwn : Kind → Bool
  | foreign _ => false
  | _ => true

/-- The name under which a kind of fault is reported. -/
def Kind.name : Kind → Text
  | general => "EmulatorError"
  | addressOutOfRange => "AddressOutOfRange"
  | invalidWord => "InvalidWord"
  | programTooLarge => "ProgramTooLarge"
  | invalidOpcode => "InvalidOpcode"
  | inputTrayUnderflow => "InputTrayUnderflow"
  | foreign name => name

/-- What can go wrong. -/
inductive Cause where
  /-- There is no mailbox of this number. -/
  | noMailbox (address : Int)
  /-- The number to be written into a mailbox is no word. -/
  | notStorable (value : Int)
  /-- The image offers something that is no word for mailbox `index`. -/
  | badImageEntry (index : Nat) (datum : Datum)
  /-- Something that is no word is offered as an input. -/
  | badInput (datum : Datum)
  /-- The machine-code text has a token on this line that is no numeral. -/
  | notANumeral (line : Nat) (token : Text)
  /-- The machine-code text has a numeral on this line that is too large for a word. -/
  | numeralTooLarge (line : Nat) (token : Text)
  /-- The image has more entries than there are mailboxes. -/
  | imageTooLong (size : Nat)
  /-- The fetched word carries no instruction. -/
  | noInstruction (word : Int)
  /-- An input is asked for and none is pending. -/
  | trayEmpty
  /-- A number or a numeral has too many digits to be converted. -/
  | overflow (o : Text.Overflow)
  /-- A fault declared from outside, by a watcher of a mailbox or by a caller. -/
  | declared (kind : Kind) (reason : Text)
deriving DecidableEq, Repr

/-- The kind of fault a cause makes. -/
def Cause.kind : Cause → Kind
  | noMailbox _ => .addressOutOfRange
  | notStorable _ | badImageEntry _ _ | badInput _ | notANumeral _ _ | numeralTooLarge _ _ =>
    .invalidWord
  | imageTooLong _ => .programTooLarge
  | noInstruction _ => .invalidOpcode
  | trayEmpty => .inputTrayUnderflow
  | overflow _ => .foreign Text.Overflow.kindName
  | declared kind _ => kind

/-- A cause in words. -/
def Cause.reason : Cause → Text
  | noMailbox address => "Mailbox address out of range 00-99: " ++ Text.decimal address
  | notStorable value => "Value out of range 000-999: " ++ Text.decimal value
  | badImageEntry index datum =>
    "Mailbox " ++ Text.zeroPadded 2 index ++ ": word out of range 000-999: " ++ datum.shown
  | badInput datum => "Input value out of range 000-999: " ++ datum.shown
  | notANumeral line token =>
    "Line " ++ Text.digits line ++ ": not a machine-code word: '" ++ token ++ "'"
  | numeralTooLarge line token =>
    "Line " ++ Text.digits line ++ ": word out of range 000-999: " ++ token
  | imageTooLong size =>
    "Program too large: got " ++ Text.digits size ++ " words, limit is " ++
      Text.digits mailboxCount
  | noInstruction word =>
    (if word / 100 = 9 then "Invalid I/O opcode: " else "Invalid opcode: ") ++
      Text.zeroPadded 3 word
  | trayEmpty => "Input tray empty"
  | overflow o => o.message
  | declared _ reason => reason

/-- Whether the numbers in the words of a cause have few enough digits to be written. Counts of what
is at hand and numbers of lines do. -/
def Cause.isWritable : Cause → Bool
  | noMailbox n | notStorable n | noInstruction n => Text.isWritable n
  | badImageEntry _ datum | badInput datum => datum.isWritable
  | _ => true

/-- Whether a cause makes a fault of the machine's own kinds, which can be put into words. -/
def Cause.isOwn (cause : Cause) : Bool :=
  cause.kind.isOwn && cause.isWritable

end Fault

/-- A fault: its cause and, if an instruction failed, the mailbox and the cycle of it. -/
structure Fault where
  cause : Fault.Cause
  address : Option Int := none
  cycle : Option Int := none
deriving DecidableEq, Repr

namespace Fault

/-- The kind of a fault. -/
def kind (f : Fault) : Kind :=
  f.cause.kind

/-- What went wrong, without the place. -/
def reason (f : Fault) : Text :=
  f.cause.reason

/-- The fault of the instruction in mailbox `address` that failed for a cause in cycle `cycle`. What
is none of the machine's own kinds, or cannot be put into words, gets no place. -/
def ofCause (cause : Cause) (address cycle : Int) : Fault :=
  if cause.isOwn then ⟨cause, some address, some cycle⟩ else { cause }

/-- The parts of the place that are known, in words. -/
def place (f : Fault) : List Text :=
  (f.cycle.map fun n => ("cycle " : Text) ++ Text.decimal n).toList ++
    (f.address.map fun a => ("mailbox " : Text) ++ Text.zeroPadded 2 a).toList

/-- A fault in words: the reason, and in brackets the place. -/
def message (f : Fault) : Text :=
  if f.place.isEmpty then f.reason
  else f.reason ++ " (" ++ List.intercalate ", " f.place ++ ")"

/-- Whether the numbers in the words of a fault, those of its place included, can be written. -/
def isWritable (f : Fault) : Bool :=
  f.cause.isWritable && f.cycle.all Text.isWritable && f.address.all Text.isWritable

/-- Whether a fault is reported as one of the machine's own kinds. -/
def isOwn (f : Fault) : Bool :=
  f.kind.isOwn && f.isWritable

/-- What is reported of a fault: the fault, or the overflow if it cannot be put into words. -/
def reported (f : Fault) : Fault :=
  if f.isWritable then f else { cause := .overflow .writing }

end Fault

end LittleMan
