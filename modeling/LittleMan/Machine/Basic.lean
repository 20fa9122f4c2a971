import LittleMan.Instruction
import LittleMan.MachineCode
import LittleMan.Memory
import LittleMan.Registers
import LittleMan.Tray

/-!
# The machine

The state of a machine: its registers, its memory, its two trays, and three records of what it did.
The trace is kept only while tracing is on and shows each instruction with the registers as they
were before it. The record of sightings holds the calls of watchers. The record of events holds what
a log of the machine tells. Records only grow, except that the trace can be cleared.

Loading a program or a list of inputs is refused as a whole, and then the machine stays as it was.
-/

namespace LittleMan

/-- An entry of the trace. -/
inductive TraceEntry where
  /-- An instruction is about to be executed: the registers before it, and its word. -/
  | instruction (registers : Registers) (word : Int)
  /-- An instruction failed. -/
  | fault (f : Fault)
deriving DecidableEq, Repr

/-- An entry of the trace as a row. -/
def TraceEntry.row : TraceEntry → Text
  | instruction registers word =>
    Text.zeroPadded 2 registers.pc ++ ": " ++ Text.zeroPadded 3 word ++ "  " ++
      (disassemble word).rightpad 7 ' ' ++ " " ++ registers.display
  | fault f => "  ERROR: " ++ f.message

/-- What happens in a machine and is worth a line of its log. -/
inductive Event where
  /-- An image of `size` entries was loaded. -/
  | loadedImage (size : Nat)
  /-- Machine-code text was loaded. -/
  | loadedText
  /-- A word was fetched from the mailbox `address` and carries an instruction. -/
  | fetched (address word : Int)
  /-- A value was written to the output tray by an instruction. -/
  | wrote (value : Int)
  /-- An instruction failed. -/
  | stopped (f : Fault)
  /-- The machine halted after `cycles` instructions. -/
  | halted (cycles : Int)
  /-- A run came to the end of its budget; `pc` is where it would go on. -/
  | exhausted (budget pc : Int)
deriving DecidableEq, Repr

/-- The state of a machine; by default a new one. -/
structure Machine where
  registers : Registers := {}
  memory : Memory := {}
  input : InputTray := {}
  output : OutputTray := {}
  /-- Whether a trace is kept. -/
  tracing : Bool := false
  trace : Array TraceEntry := #[]
  /-- The calls of watchers so far. -/
  sightings : Array Sighting := #[]
  /-- The events so far. -/
  events : Array Event := #[]

namespace Machine

/-- The values written so far, oldest first. -/
def outputs (m : Machine) : List Int :=
  m.output.values.toList

/-- The trace as text, one entry to a row. -/
def traceText (m : Machine) : Text :=
  Text.joinRows (m.trace.toList.map TraceEntry.row)

/-- Adds an event to the record. -/
def note (m : Machine) (e : Event) : Machine :=
  { m with events := m.events.push e }

/-- Adds an entry to the trace if tracing is on. -/
def tell (m : Machine) (e : TraceEntry) : Machine :=
  if m.tracing then { m with trace := m.trace.push e } else m

/-- Puts the registers back to power-on. -/
def resetRegisters (m : Machine) : Machine :=
  { m with registers := {} }

/-- Puts the registers back to power-on and empties the trays and the trace; the memory stays. -/
def reset (m : Machine) : Machine :=
  { m with registers := {}, input := {}, output := {}, trace := #[] }

/-- Loads an image and puts the registers back to power-on. -/
def load (m : Machine) (image : List Datum) : Except Fault Machine :=
  match m.memory.load image with
  | .error cause => .error { cause }
  | .ok memory => .ok ({ m with memory, registers := {} }.note (.loadedImage image.length))

/-- Loads the words of a machine-code text into a memory. -/
def loadWords (memory : Memory) (text : Text) : Except Fault.Cause Memory :=
  match MachineCode.parse text with
  | .error cause => .error cause
  | .ok words => memory.load (words.map .integer)

/-- Loads machine-code text and puts the registers back to power-on. -/
def loadText (m : Machine) (text : Text) : Except Fault Machine :=
  match loadWords m.memory text with
  | .error cause => .error { cause }
  | .ok memory => .ok ({ m with memory, registers := {} }.note .loadedText)

/-- Puts a list of inputs behind those that wait. -/
def inject (m : Machine) (inputs : List Datum) : Except Fault Machine :=
  match m.input.inject inputs with
  | .error cause => .error { cause }
  | .ok input => .ok { m with input }

end Machine

end LittleMan
