import LittleMan.Machine.Step

/-!
# Runs

A run executes instructions until the machine halts, an instruction fails, or a budget of
instructions is used up. A halt in the last instruction of the budget is a halt. The state after a
run is defined however it ends, so a run that was out of budget can be taken up again.
-/

namespace LittleMan

namespace Machine

/-- The budget of a run for which none is given. -/
def defaultBudget : Int := 10000

/-- How a run ended without a fault: why, and after how many instructions of its own. -/
structure Run where
  stop : Stop
  executed : Nat
deriving DecidableEq, Repr

/-- Why the machine refused a request. -/
inductive Error where
  /-- The request, or an instruction of it, failed. -/
  | fault (f : Fault)
  /-- A run was asked for with a budget below zero. -/
  | negativeBudget (budget : Int)
  /-- A number has too many digits to be shown. -/
  | overflow (o : Text.Overflow)
deriving DecidableEq, Repr

/-- What is said of a budget below zero: that it is one, or that it has too many digits to be
written. -/
def negativeBudgetMessage (budget : Int) : Text :=
  match Text.withIntegers [budget] ("max_cycles must be >= 0, got " ++ Text.decimal budget) with
  | .ok message => message
  | .error o => o.message

/-- The refusal in words. -/
def Error.message : Error → Text
  | fault f => f.reported.message
  | negativeBudget budget => negativeBudgetMessage budget
  | overflow o => o.message

/-- Goes on with a run that has executed `executed` instructions and may execute `budget` more. -/
def continueRun (executed : Nat) : Nat → Machine → Machine × Except Fault Run
  | 0, m => (m, .ok ⟨.timeout, executed⟩)
  | budget + 1, m =>
    match m.step with
    | (after, .error f) => (after, .error f)
    | (after, .ok (some stop)) => (after, .ok ⟨stop, executed + 1⟩)
    | (after, .ok none) => continueRun (executed + 1) budget after

/-- Runs a machine for at most `budget` instructions. -/
def runFor (m : Machine) (budget : Nat) : Machine × Except Fault Run :=
  if m.registers.halted then (m, .ok ⟨.halt, 0⟩)
  else
    match continueRun 0 budget m with
    | (after, .ok ⟨.timeout, executed⟩) =>
      (after.note (.exhausted budget after.registers.pc), .ok ⟨.timeout, executed⟩)
    | ended => ended

/-- Runs a machine for at most `budget` instructions; a negative budget is refused. -/
def run (m : Machine) (budget : Int) : Machine × Except Error Run :=
  if budget < 0 then (m, .error (.negativeBudget budget))
  else
    match m.runFor budget.toNat with
    | (after, .ok r) => (after, .ok r)
    | (after, .error f) => (after, .error (.fault f))

/-- Loads an image and a list of inputs and runs the machine: the machine afterwards, also when one
of the three failed, and the end of the run. -/
def runProgram (m : Machine) (image inputs : List Datum) (budget : Int) :
    Machine × Except Error Run :=
  match m.load image with
  | .error f => (m, .error (.fault f))
  | .ok loaded =>
    match loaded.inject inputs with
    | .error f => (loaded, .error (.fault f))
    | .ok ready => ready.run budget

end Machine

/-- Runs an image with a list of inputs on a new machine: the values written, and why the run
ended. -/
def execute (image inputs : List Datum) (budget : Int) : Except Machine.Error (List Int × Stop) :=
  match Machine.runProgram {} image inputs budget with
  | (_, .error e) => .error e
  | (after, .ok r) => .ok (after.outputs, r.stop)

end LittleMan
