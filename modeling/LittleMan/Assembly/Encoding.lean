import LittleMan.Assembly.Layout

/-!
# The words of a program

The second pass gives every placed statement its word. An operand is a literal or the name of a
label; since all labels are known by now, a label may be used before the line that defines it. A
literal with too many digits to be read stops the pass; the statements behind it get no words, and
nothing is found out about them.
-/

namespace LittleMan

namespace Assembly

/-- The largest operand of an instruction. -/
def addressLimit : Nat := 99

/-- The largest operand of the data directive. -/
def dataLimit : Nat := 999

/-- Whether an operand is a negative literal. -/
def isNegativeLiteral : Text → Bool
  | '-' :: ds => Text.isNumeral ds
  | _ => false

/-- The number that an operand stands for: a literal up to `limit`, or the mailbox of a label. -/
def operandValue (symbols : Symbols) (limit : Nat) (operand : Text) : Except Cause Nat :=
  if isNegativeLiteral operand then
    match Text.readDigits operand.tail with
    | .error o => .error (.unreadable o)
    | .ok _ => .error (.operandOutOfRange limit operand)
  else match Text.numeral? operand with
    | some (.error o) => .error (.unreadable o)
    | some (.ok value) =>
      if value ≤ limit then .ok value else .error (.operandOutOfRange limit operand)
    | none => match symbols.lookup operand with
      | some address => .ok address
      | none =>
        if isName operand then .error (.undefinedLabel operand)
        else .error (.invalidOperand operand)

/-- The word of a statement. -/
def Statement.word (symbols : Symbols) (s : Statement) : Except Cause Int :=
  match form? s.mnemonic, s.operand with
  | none, _ => .error (.unknownMnemonic s.mnemonic)
  | some .data, none => .ok 0
  | some .data, some operand =>
    (fun n : Nat => (n : Int)) <$> operandValue symbols dataLimit operand
  | some (.fixed i), none => .ok i.encode
  | some (.fixed _), some operand => .error (.unexpectedOperand s.mnemonic operand)
  | some (.addressed _), none => .error (.missingOperand s.mnemonic)
  | some (.addressed make), some operand =>
    (fun n : Nat => (make n).encode) <$> operandValue symbols addressLimit operand

/-- The word of a placed statement; other lines have none. -/
def Entry.word? (symbols : Symbols) : Entry → Option (Except Error Int)
  | placed line s _ => match s.word symbols with
    | .ok word => some (.ok word)
    | .error cause => some (.error (line.error cause))
  | _ => none

/-- The words of the entries that have one, in order. -/
def wordsOf (symbols : Symbols) (entries : List Entry) : List Int :=
  entries.filterMap fun e => (e.word? symbols).bind (·.toOption)

/-- The error of an entry in the second pass. -/
def Entry.encodingError? (symbols : Symbols) (e : Entry) : Option Error :=
  match e.word? symbols with
  | some (.error error) => some error
  | _ => none

/-- The error with which the second pass stops at an entry, if it does. -/
def Entry.stop? (symbols : Symbols) (e : Entry) : Option Error :=
  (e.encodingError? symbols).filter (·.cause.stops)

/-- The entries that the second pass gets through. -/
def reached (symbols : Symbols) (entries : List Entry) : List Entry :=
  entries.takeWhile fun e => (e.stop? symbols).isNone

/-- The errors of the second pass, in order. -/
def encodingErrors (symbols : Symbols) (entries : List Entry) : List Error :=
  (reached symbols entries).filterMap (Entry.encodingError? symbols)

end Assembly

end LittleMan
