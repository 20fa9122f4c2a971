import LittleMan.Machine.Basic

/-!
# One step of the machine

A step fetches the word at the program counter, moves the counter on by one, from 99 back to 0, and
then executes the instruction that the word carries, so that a branch overrides the move. Addition
and subtraction wrap at a thousand; only a subtraction sets or clears the negative flag. When the
instruction is complete the cycle counts. An instruction that fails is not counted, and its fault
tells its mailbox and the cycle it would have been. A halted machine does nothing.

What is no fault of the machine's own kinds passes through a step as it is: it gets no place, and
trace and log do not tell it. Neither do they tell a fault that cannot be put into words.
-/

namespace LittleMan

/-- Why a run came to an end without a fault. -/
inductive Stop where
  /-- The machine halted. -/
  | halt
  /-- The budget of instructions is used up. -/
  | timeout
deriving DecidableEq, Repr

/-- The name under which the end of a run is reported. -/
def Stop.name : Stop → Text
  | halt => "HALT"
  | timeout => "TIMEOUT"

namespace Machine

/-- The machine with another accumulator. -/
def setAcc (m : Machine) (value : Int) : Machine :=
  { m with registers := { m.registers with acc := value } }

/-- The machine with another program counter. -/
def setPc (m : Machine) (address : Int) : Machine :=
  { m with registers := { m.registers with pc := address } }

/-- The machine after the accumulator took the difference `raw`, which may be negative: it wraps at
a thousand, and the flag says whether it did. -/
def setDifference (m : Machine) (raw : Int) : Machine :=
  if raw < 0 then
    { m with registers := { m.registers with neg := true, acc := (raw + 1000) % 1000 } }
  else
    { m with registers := { m.registers with neg := false, acc := raw } }

/-- The machine after `act` on the word of a mailbox, or the reason why there is none. -/
def onWord (m : Machine) (address : Int) (act : Int → Machine) : Machine × Option Fault.Cause :=
  match m.memory.read address with
  | .ok word => (act word, none)
  | .error cause => (m, some cause)

/-- The effect of an instruction whose word has been fetched: the machine afterwards and, if the
instruction failed, the cause. -/
def perform (m : Machine) : Instruction → Machine × Option Fault.Cause
  | .hlt => ({ m with registers := { m.registers with halted := true } }, none)
  | .add address => m.onWord address fun word => m.setAcc ((m.registers.acc + word) % 1000)
  | .sub address => m.onWord address fun word => m.setDifference (m.registers.acc - word)
  | .sto address =>
    match m.memory.write address m.registers.acc with
    | (calls, .ok memory) => ({ m with memory, sightings := m.sightings ++ calls }, none)
    | (calls, .error cause) => ({ m with sightings := m.sightings ++ calls }, some cause)
  | .lda address => m.onWord address fun word => m.setAcc word
  | .br address => (m.setPc address, none)
  | .brz address => (if m.registers.acc = 0 then m.setPc address else m, none)
  | .brp address => (if m.registers.neg then m else m.setPc address, none)
  | .inp =>
    match m.input.pop with
    | .ok (value, input) => ({ m with input }.setAcc value, none)
    | .error cause => (m, some cause)
  | .out =>
    ({ m with output := m.output.push m.registers.acc }.note (.wrote m.registers.acc), none)

/-- The machine after a fault, which trace and log tell if it is one of the machine's own kinds. -/
def tellFault (m : Machine) (f : Fault) : Machine :=
  if f.isOwn then (m.tell (.fault f)).note (.stopped f) else m

/-- The end of a step that failed in the mailbox `address` and the cycle `cycle`. -/
def fail (m : Machine) (address cycle : Int) (cause : Fault.Cause) :
    Machine × Except Fault (Option Stop) :=
  let f := Fault.ofCause cause address cycle
  (m.tellFault f, .error f)

/-- The end of a step whose instruction was completed: the cycle counts, and a machine that has
halted stops. -/
def complete (m : Machine) (cycle : Int) : Machine × Except Fault (Option Stop) :=
  let counted : Machine := { m with registers := { m.registers with cycles := cycle } }
  if m.registers.halted then (counted.note (.halted cycle), .ok (some .halt))
  else (counted, .ok none)

/-- Executes one instruction: the machine afterwards, and the reason to stop if there is one. -/
def step (m : Machine) : Machine × Except Fault (Option Stop) :=
  if m.registers.halted then (m, .ok (some .halt))
  else
    let before := m.registers
    let pc := before.pc
    let cycle := before.cycles + 1
    match m.memory.read pc with
    | .error cause => m.fail pc cycle cause
    | .ok word =>
      let fetched := m.setPc ((pc + 1) % 100)
      match Instruction.decode? word with
      | none => fetched.fail pc cycle (.noInstruction word)
      | some i =>
        match ((fetched.tell (.instruction before word)).note (.fetched pc word)).perform i with
        | (after, some cause) => after.fail pc cycle cause
        | (after, none) => after.complete cycle

end Machine

end LittleMan
