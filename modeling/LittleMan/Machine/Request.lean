import LittleMan.Change
import LittleMan.Machine.Run

/-!
# Requests to a machine

Everything that can be asked of a machine from outside, as one type, with one function that carries
a request out. A request that is refused leaves the machine as the refusal found it: unchanged,
except that a step or a run keeps what it did before its fault, and a vetoed write keeps the calls
that were made. A session is a list of requests, each carried out on what the one before it left.
-/

namespace LittleMan

namespace Machine

/-- A register put to a value from outside, without any check. -/
inductive Assignment where
  | acc (value : Int)
  | neg (value : Bool)
  | pc (value : Int)
  | cycles (value : Int)
  | halted (value : Bool)
deriving DecidableEq, Repr

/-- The registers after an assignment. -/
def Assignment.apply (r : Registers) : Assignment → Registers
  | acc value => { r with acc := value }
  | neg value => { r with neg := value }
  | pc value => { r with pc := value }
  | cycles value => { r with cycles := value }
  | halted value => { r with halted := value }

/-- What can be asked of a machine. -/
inductive Request where
  /-- Load an image. -/
  | load (image : List Datum)
  /-- Load machine-code text. -/
  | loadText (text : Text)
  /-- Put inputs on the input tray. -/
  | inject (inputs : List Datum)
  /-- Execute one instruction. -/
  | step
  /-- Run within a budget. -/
  | run (budget : Int)
  /-- Reset registers, trays and trace. -/
  | reset
  /-- Reset the registers. -/
  | resetRegisters
  /-- Assign a register. -/
  | assign (a : Assignment)
  /-- Show the registers. -/
  | display
  /-- Tell the flags. -/
  | flags
  /-- Switch tracing on or off. -/
  | setTracing (on : Bool)
  /-- Show the trace. -/
  | showTrace
  /-- Empty the trace. -/
  | clearTrace
  /-- Read a mailbox. -/
  | read (address : Int)
  /-- Write a value into a mailbox. -/
  | write (address value : Int)
  /-- Load an image into the memory alone. -/
  | loadMemory (image : List Datum)
  /-- Load machine-code text into the memory alone. -/
  | loadMemoryText (text : Text)
  /-- Put zero into every mailbox. -/
  | clearMemory
  /-- Tell the number of mailboxes. -/
  | size
  /-- Tell the words of all mailboxes. -/
  | snapshot
  /-- Show the memory as a grid. -/
  | dump
  /-- Register a watcher of a mailbox. -/
  | watch (address : Int) (w : Watcher)
  /-- End the registrations of a watcher for a mailbox, or of all. -/
  | unwatch (address : Int) (name : Option Text)
  /-- Take the front value of the input tray. -/
  | popInput
  /-- Empty the input tray. -/
  | clearInput
  /-- Count the values that wait. -/
  | inputSize
  /-- Put a value on the output tray, without any check. -/
  | pushOutput (value : Int)
  /-- Tell the value written last. -/
  | lastOutput
  /-- Count the values written. -/
  | outputSize
  /-- Empty the output tray. -/
  | clearOutput

/-- What a machine answers to a request that is not refused. -/
inductive Reply where
  /-- There is nothing to tell. -/
  | done
  /-- A step was executed, and the reason to stop if there is one. -/
  | stepped (stop : Option Stop)
  /-- A run came to its end. -/
  | ran (r : Run)
  | flags (negative zero halted : Bool)
  | text (t : Text)
  | number (n : Option Int)
  | words (ws : List Int)
deriving DecidableEq, Repr

/-- The answer of a request that changes the machine or is refused. -/
def orRefuse (m : Machine) : Except Fault Machine → Machine × Except Error Reply
  | .ok after => (after, .ok .done)
  | .error f => (m, .error (.fault f))

/-- The answer of a request that changes the memory alone or is refused. -/
def withMemory (m : Machine) : Except Fault.Cause Memory → Machine × Except Error Reply
  | .ok memory => ({ m with memory }, .ok .done)
  | .error cause => (m, .error (.fault { cause }))

/-- Carries out a request: the machine afterwards, and the answer or the refusal. -/
def handle (m : Machine) : Request → Machine × Except Error Reply
  | .load image => m.orRefuse (m.load image)
  | .loadText text => m.orRefuse (m.loadText text)
  | .inject inputs => m.orRefuse (m.inject inputs)
  | .step =>
    match m.step with
    | (after, .ok stop) => (after, .ok (.stepped stop))
    | (after, .error f) => (after, .error (.fault f))
  | .run budget =>
    match m.run budget with
    | (after, .ok r) => (after, .ok (.ran r))
    | (after, .error e) => (after, .error e)
  | .reset => (m.reset, .ok .done)
  | .resetRegisters => (m.resetRegisters, .ok .done)
  | .assign a => ({ m with registers := a.apply m.registers }, .ok .done)
  | .display => (m, (m.registers.written.mapError .overflow).map .text)
  | .flags => (m, .ok (.flags m.registers.neg m.registers.isZero m.registers.halted))
  | .setTracing on => ({ m with tracing := on }, .ok .done)
  | .showTrace => (m, .ok (.text m.traceText))
  | .clearTrace => ({ m with trace := #[] }, .ok .done)
  | .read address =>
    match m.memory.read address with
    | .ok word => (m, .ok (.number word))
    | .error cause => (m, .error (.fault { cause }))
  | .write address value =>
    let (calls, outcome) := m.memory.write address value
    { m with sightings := m.sightings ++ calls }.withMemory outcome
  | .loadMemory image => m.withMemory (m.memory.load image)
  | .loadMemoryText text => m.withMemory (loadWords m.memory text)
  | .clearMemory => m.withMemory (.ok m.memory.clear)
  | .size => (m, .ok (.number (some mailboxCount)))
  | .snapshot => (m, .ok (.words m.memory.snapshot))
  | .dump => (m, .ok (.text m.memory.dump))
  | .watch address w => m.withMemory (m.memory.watch address w)
  | .unwatch address name => m.withMemory (.ok (m.memory.unwatch address name))
  | .popInput =>
    match m.input.pop with
    | .ok (value, input) => ({ m with input }, .ok (.number value))
    | .error cause => (m, .error (.fault { cause }))
  | .clearInput => ({ m with input := {} }, .ok .done)
  | .inputSize => (m, .ok (.number (some m.input.pending.length)))
  | .pushOutput value => ({ m with output := m.output.push value }, .ok .done)
  | .lastOutput => (m, .ok (.number m.output.last?))
  | .outputSize => (m, .ok (.number (some m.output.values.size)))
  | .clearOutput => ({ m with output := {} }, .ok .done)

/-- Carries out the requests of a session one after the other. -/
def session (m : Machine) : List Request → Machine
  | [] => m
  | request :: rest => (m.handle request).1.session rest

end Machine

end LittleMan
