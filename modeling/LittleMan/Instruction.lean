import LittleMan.Text.Numeral

/-!
# Instructions

The ten instructions of the machine and the words that carry them. The hundreds digit of a word
selects the instruction and the other two digits are its mailbox operand:

  0xx  HLT         5xx  LDA xx
  1xx  ADD xx      6xx  BR  xx
  2xx  SUB xx      7xx  BRZ xx
  3xx  STO xx      8xx  BRP xx
                   901  IN
                   902  OUT

A halt ignores its operand, so every word from 000 to 099 halts. The hundreds digit 4 is not used,
and of the words from 900 on only 901 and 902 are. Decoding is defined for every integer: beyond the
three digits no integer carries an instruction.
-/

namespace LittleMan

/-- An instruction, with the mailbox it works on if it has one. -/
inductive Instruction where
  | hlt
  | add (address : Int)
  | sub (address : Int)
  | sto (address : Int)
  | lda (address : Int)
  | br (address : Int)
  | brz (address : Int)
  | brp (address : Int)
  | inp
  | out
deriving DecidableEq, Repr

namespace Instruction

/-- The instruction that a word carries, if it carries one. -/
def decode? (word : Int) : Option Instruction :=
  let operand := word % 100
  match word / 100 with
  | 0 => some hlt
  | 1 => some (add operand)
  | 2 => some (sub operand)
  | 3 => some (sto operand)
  | 5 => some (lda operand)
  | 6 => some (br operand)
  | 7 => some (brz operand)
  | 8 => some (brp operand)
  | 9 => match operand with
    | 1 => some inp
    | 2 => some out
    | _ => none
  | _ => none

/-- The word that carries an instruction. -/
def encode : Instruction → Int
  | hlt => 0
  | add a => 100 + a
  | sub a => 200 + a
  | sto a => 300 + a
  | lda a => 500 + a
  | br a => 600 + a
  | brz a => 700 + a
  | brp a => 800 + a
  | inp => 901
  | out => 902

/-- The name of an instruction. -/
def mnemonic : Instruction → Text
  | hlt => "HLT"
  | add _ => "ADD"
  | sub _ => "SUB"
  | sto _ => "STO"
  | lda _ => "LDA"
  | br _ => "BR"
  | brz _ => "BRZ"
  | brp _ => "BRP"
  | inp => "IN"
  | out => "OUT"

/-- The mailbox an instruction works on. -/
def operand? : Instruction → Option Int
  | add a | sub a | sto a | lda a | br a | brz a | brp a => some a
  | hlt | inp | out => none

/-- An instruction as assembly text, the operand in column five. -/
def text (i : Instruction) : Text :=
  match i.operand? with
  | some a => i.mnemonic.rightpad 4 ' ' ++ Text.zeroPadded 2 a
  | none => i.mnemonic

end Instruction

/-- A word as assembly text: its instruction, or else a directive that puts the word there. -/
def disassemble (word : Int) : Text :=
  match Instruction.decode? word with
  | some i => i.text
  | none => "DAT " ++ Text.zeroPadded 3 word

/-- An integer as assembly text, unless it has too many digits to be written. -/
def writeDisassembled (word : Int) : Except Text.Overflow Text :=
  match Instruction.decode? word with
  | some i => .ok i.text
  | none => Text.withIntegers [word] ("DAT " ++ Text.zeroPadded 3 word)

end LittleMan
