import LittleMan.Assembly.SourceLine
import LittleMan.Text.Line

/-!
# The layout of a program

The first pass over a source reads its lines one after the other and gives every statement the next
free mailbox. What it finds is the layout: one entry for each line, up to the first statement for
which there is no mailbox left. A statement whose label an earlier one has is not placed and takes
no mailbox. The labels and their mailboxes, the errors and the size are read off the layout.
-/

namespace LittleMan

namespace Assembly

/-- Labels and their mailboxes, in the order of definition. -/
abbrev Symbols := List (Text × Nat)

/-- What the first pass makes of a line. -/
inductive Entry where
  /-- The line cannot be read. -/
  | rejected (e : Error)
  /-- The line has no statement. -/
  | silent (line : SourceLine)
  /-- The statement of the line is placed in the mailbox `address`. -/
  | placed (line : SourceLine) (statement : Statement) (address : Nat)
  /-- The label of the line is already defined. -/
  | clashing (line : SourceLine) (e : Error)
  /-- There is no mailbox left for the statement of the line. -/
  | overflowing (line : SourceLine) (e : Error)
deriving DecidableEq, Repr

namespace Entry

/-- The error that the first pass found in the line. -/
def error? : Entry → Option Error
  | rejected e | clashing _ e | overflowing _ e => some e
  | silent _ | placed _ _ _ => none

/-- The line, if it could be read. -/
def line? : Entry → Option SourceLine
  | rejected _ => none
  | silent line | placed line _ _ | clashing line _ | overflowing line _ => some line

/-- The label that the line defines, and its mailbox. -/
def symbol? : Entry → Option (Text × Nat)
  | placed _ statement address => statement.label.map (·, address)
  | _ => none

/-- Whether the line has a mailbox. -/
def isPlaced : Entry → Bool
  | placed _ _ _ => true
  | _ => false

/-- Whether the line found no mailbox left. -/
def isOverflowing : Entry → Bool
  | overflowing _ _ => true
  | _ => false

end Entry

/-- An error about a line. -/
def SourceLine.error (line : SourceLine) (cause : Cause) : Error :=
  ⟨cause, line.number, line.text⟩

/-- The label of a statement that is defined already, and its mailbox. -/
def Statement.clash? (s : Statement) (symbols : Symbols) : Option (Text × Nat) := do
  let name ← s.label
  let address ← symbols.lookup name
  return (name, address)

/-- The layout of the lines from number `number` on, when `free` is the next free mailbox and
`symbols` are the labels so far. -/
def layoutFrom (number : Int) (free : Nat) (symbols : Symbols) : List Text → List Entry
  | [] => []
  | raw :: rest =>
    match SourceLine.parse number (Text.dropBreaks raw) with
    | .error e => .rejected e :: layoutFrom (number + 1) free symbols rest
    | .ok line =>
      match line.statement with
      | none => .silent line :: layoutFrom (number + 1) free symbols rest
      | some s =>
        if free ≥ mailboxCount then [.overflowing line (line.error .programTooLarge)]
        else
          match s.clash? symbols with
          | some (name, address) =>
            .clashing line (line.error (.duplicateLabel name address)) ::
              layoutFrom (number + 1) free symbols rest
          | none =>
            .placed line s free ::
              layoutFrom (number + 1) (free + 1)
                (symbols ++ (s.label.map (·, free)).toList) rest

/-- The layout of a source. -/
def layout (source : List Text) : List Entry :=
  layoutFrom 1 0 [] source

/-- The labels of a layout. -/
def symbolsOf (entries : List Entry) : Symbols :=
  entries.filterMap Entry.symbol?

/-- The errors of a layout. -/
def layoutErrors (entries : List Entry) : List Error :=
  entries.filterMap Entry.error?

/-- The number of mailboxes that a layout gave away. -/
def placedCount (entries : List Entry) : Nat :=
  entries.countP Entry.isPlaced

end Assembly

end LittleMan
