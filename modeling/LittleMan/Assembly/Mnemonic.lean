import LittleMan.Instruction
import LittleMan.Text.Upper

/-!
# Mnemonics

The mnemonics of the assembly language: one for each instruction, a second one for storing and for
halting, and the directive that places a word. A mnemonic may be written in any case; it is known by
its upper case.
-/

namespace LittleMan

namespace Assembly

/-- What a mnemonic stands for. -/
inductive Form where
  /-- A word is placed as it is. -/
  | data
  /-- An instruction without operand. -/
  | fixed (i : Instruction)
  /-- An instruction on the mailbox that its operand names. -/
  | addressed (make : Int → Instruction)

/-- The mnemonics. -/
def mnemonics : List (Text × Form) :=
  [("ADD", .addressed .add), ("SUB", .addressed .sub), ("STO", .addressed .sto),
    ("STA", .addressed .sto), ("LDA", .addressed .lda), ("BR", .addressed .br),
    ("BRZ", .addressed .brz), ("BRP", .addressed .brp), ("HLT", .fixed .hlt),
    ("COB", .fixed .hlt), ("IN", .fixed .inp), ("OUT", .fixed .out), ("DAT", .data)]

/-- What a mnemonic in upper case stands for. -/
def form? (mnemonic : Text) : Option Form :=
  mnemonics.lookup mnemonic

/-- Whether a field is a mnemonic, in any case. -/
def isMnemonic (field : Text) : Bool :=
  (form? (Text.upper field)).isSome

end Assembly

end LittleMan
