import LittleMan.Text.Numeral

/-!
# Registers

The accumulator, the program counter, the negative flag, the count of completed instructions, and
whether the machine has halted. In a run the accumulator holds a word and the counter an address;
put there from outside, a register takes any value.
-/

namespace LittleMan

/-- The registers, at power-on by default. -/
structure Registers where
  /-- The accumulator. -/
  acc : Int := 0
  /-- The negative flag: whether the last subtraction went below zero. -/
  neg : Bool := false
  /-- The program counter. -/
  pc : Int := 0
  /-- How many instructions were completed. -/
  cycles : Int := 0
  halted : Bool := false
deriving DecidableEq, Repr

namespace Registers

/-- Whether the accumulator holds zero. -/
def isZero (r : Registers) : Bool :=
  r.acc = 0

/-- The registers on one row. -/
def display (r : Registers) : Text :=
  "PC=" ++ Text.zeroPadded 2 r.pc ++ " ACC=" ++ Text.zeroPadded 3 r.acc ++
    " [" ++ (if r.neg then ['N'] else ['.']) ++ "] CYC=" ++ Text.decimal r.cycles

/-- The registers on one row, unless one of them has too many digits to be written. -/
def written (r : Registers) : Except Text.Overflow Text :=
  Text.withIntegers [r.pc, r.acc, r.cycles] r.display

end Registers

end LittleMan
