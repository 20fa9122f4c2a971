import LittleMan.Batch.Record
import LittleMan.Machine.Run

/-!
# Outcomes

A record is tried on a machine of its own, so that no trial affects another. Its outcome is one of
four verdicts: the program halted as expected; it halted, but the value written last is not the
expected one; it did not halt within its budget; or it failed. A malformed line counts as a failure
of a program that was never run. There is no outcome for a negative budget, nor where the message of
the outcome would have a number in it with too many digits to be written.
-/

namespace LittleMan

namespace Batch

/-- The verdict on a record. -/
inductive Verdict where
  | pass
  | resultMismatch
  | budgetExceeded
  | executionError
deriving DecidableEq, Repr

namespace Verdict

/-- All verdicts, in the order in which they are counted. -/
def all : List Verdict :=
  [pass, resultMismatch, budgetExceeded, executionError]

/-- The name under which a verdict is reported. -/
def name : Verdict → Text
  | pass => "pass"
  | resultMismatch => "result_mismatch"
  | budgetExceeded => "cycle_budget_exceeded"
  | executionError => "execution_error"

end Verdict

/-- Why there is no outcome. -/
inductive Error where
  /-- There is no image to try a record on. -/
  | noImage
  /-- The budget of the record is negative. -/
  | negativeBudget (budget : Int)
  /-- A number has too many digits to be read or written. -/
  | overflow (o : Text.Overflow)
deriving DecidableEq, Repr

/-- The reason in words. -/
def Error.message : Error → Text
  | noImage => "No program image attached"
  | negativeBudget budget => Machine.negativeBudgetMessage budget
  | overflow o => o.message

/-- What came of a record. -/
structure Outcome where
  name : Text
  verdict : Verdict
  expected : Option Int := none
  /-- The value written last. -/
  observed : Option Int := none
  outputs : List Int := []
  /-- The number of completed instructions. -/
  cycles : Int := 0
  /-- The kind of the error, if there was one. -/
  errorKind : Option Text := none
  message : Text
deriving DecidableEq, Repr

namespace Outcome

/-- Whether the record passed. -/
def passed (o : Outcome) : Bool :=
  o.verdict = .pass

/-- The budget of a record as a message shows it. -/
def budgetText : Option Int → Text
  | some budget => Text.decimal budget
  | none => "None"

/-- The verdict on a run that came to its end, and the reason for it; the numbers in the reason. -/
def judge (record : Record) (observed : Option Int) : Stop → Verdict × Text × List Int
  | .timeout =>
    (.budgetExceeded, "no halt within " ++ budgetText record.budget ++ " cycles",
      record.budget.toList)
  | .halt =>
    match record.expected, observed with
    | none, _ => (.pass, "halted", [])
    | some _, none => (.resultMismatch, "no output produced", [])
    | some expected, some value =>
      if value = expected then (.pass, "output " ++ Text.zeroPadded 3 value, [value])
      else
        (.resultMismatch,
          "expected " ++ Text.zeroPadded 3 expected ++ ", got " ++ Text.zeroPadded 3 value,
          [expected, value])

/-- The outcome of a run that came to its end, unless the reason cannot be written. -/
def ofRun (record : Record) (m : Machine) (r : Machine.Run) : Except Text.Overflow Outcome :=
  let (verdict, reason, numbers) := judge record m.output.last? r.stop
  (Text.withIntegers numbers reason).map fun message =>
    ⟨record.name, verdict, record.expected, m.output.last?, m.outputs, r.executed, none, message⟩

/-- The outcome of a program that failed, unless the fault cannot be put into words. -/
def ofFault (record : Record) (m : Machine) (f : Fault) : Except Text.Overflow Outcome :=
  if f.isWritable then
    .ok ⟨record.name, .executionError, record.expected, m.output.last?, m.outputs,
      m.registers.cycles, some f.kind.name, f.message⟩
  else .error .writing

/-- The outcome of a malformed line. It is named by the line up to the first semicolon, or by its
number. -/
def ofMalformed (e : Record.Error) : Outcome :=
  let name := Text.strip (Text.before ';' e.text)
  ⟨if name.isEmpty then "line " ++ Text.decimal e.line else name, .executionError, none, none, [],
    0, some Record.Error.kindName, e.message⟩

end Outcome

/-- Tries a record on a new machine: the machine afterwards, and the outcome if there is one. -/
def trial (image : List Datum) (record : Record) : Machine × Except Error Outcome :=
  match Machine.runProgram {} image record.inputs (record.budget.getD Machine.defaultBudget) with
  | (after, .ok r) => (after, (Outcome.ofRun record after r).mapError .overflow)
  | (after, .error (.fault f)) => (after, (Outcome.ofFault record after f).mapError .overflow)
  | (after, .error (.negativeBudget budget)) => (after, .error (.negativeBudget budget))
  | (after, .error (.overflow o)) => (after, .error (.overflow o))

end Batch

end LittleMan
