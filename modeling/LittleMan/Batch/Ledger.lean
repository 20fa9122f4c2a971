import LittleMan.Batch.Outcome
import LittleMan.Machine.Log

/-!
# The ledger of a batch

A ledger keeps the outcome of every record that was tried, in order. It may have an image of its
own, on which records are tried unless another image is given. A record is refused if there is no
image, or if a trial of it has no outcome; what was tried before stays in the ledger. A malformed
line of a test file enters the ledger like a trial that failed, and the lines after it are tried all
the same. A test file with a numeral that has too many digits to be read is refused as a whole.
-/

namespace LittleMan

namespace Batch

/-- The outcomes of a batch. -/
structure Ledger where
  /-- The image on which records are tried if no other is given. -/
  image : Option (List Datum) := none
  /-- The outcomes, oldest first. -/
  results : List Outcome := []
  /-- What the log tells of the trials. -/
  log : Array Log.Line := #[]
deriving DecidableEq, Repr

namespace Ledger

/-- Adds lines to the log. -/
def tell (l : Ledger) (lines : List Log.Line) : Ledger :=
  { l with log := l.log ++ lines }

/-- Enters an outcome. -/
def enter (l : Ledger) (o : Outcome) : Ledger :=
  { l with results := l.results ++ [o] }

/-- What the log tells of an outcome. -/
def trialLine (o : Outcome) : Log.Line :=
  ⟨.info, .batch, o.name ++ ": " ++ o.verdict.name ++ " (" ++ o.message ++ ")"⟩

/-- What the log tells of a malformed line. -/
def malformedLine (o : Outcome) : Log.Line :=
  ⟨.warning, .batch, o.name ++ ": " ++ o.message⟩

/-- Tries a record on the given image, or else on the image of the ledger. -/
def runRecord (l : Ledger) (override : Option (List Datum)) (record : Record) :
    Ledger × Except Error Outcome :=
  match override.or l.image with
  | none => (l, .error .noImage)
  | some image =>
    match trial image record with
    | (m, .error e) => (l.tell m.logLines, .error e)
    | (m, .ok o) => (((l.tell m.logLines).enter o).tell [trialLine o], .ok o)

/-- Tries records in order, up to the first that is refused. -/
def runSuite (l : Ledger) (override : Option (List Datum)) :
    List Record → Ledger × Except Error (List Outcome)
  | [] => (l, .ok [])
  | record :: rest =>
    match l.runRecord override record with
    | (after, .error e) => (after, .error e)
    | (after, .ok o) =>
      match after.runSuite override rest with
      | (final, .error e) => (final, .error e)
      | (final, .ok os) => (final, .ok (o :: os))

/-- Tries the records of a test file in order, up to the first that is refused, and enters its
malformed lines. -/
def runEntries (l : Ledger) (override : Option (List Datum)) :
    List (Except Record.Error Record) → Ledger × Except Error (List Outcome)
  | [] => (l, .ok [])
  | .error e :: rest =>
    let o := Outcome.ofMalformed e
    match ((l.enter o).tell [malformedLine o]).runEntries override rest with
    | (final, .error e) => (final, .error e)
    | (final, .ok os) => (final, .ok (o :: os))
  | .ok record :: rest =>
    match l.runRecord override record with
    | (after, .error e) => (after, .error e)
    | (after, .ok o) =>
      match after.runEntries override rest with
      | (final, .error e) => (final, .error e)
      | (final, .ok os) => (final, .ok (o :: os))

/-- Runs a test file. -/
def runFile (l : Ledger) (override : Option (List Datum)) (t : Text) :
    Ledger × Except Error (List Outcome) :=
  match Record.scan t with
  | .error o => (l, .error (.overflow o))
  | .ok entries => l.runEntries override entries

/-- The number of outcomes with a verdict. -/
def count (l : Ledger) (v : Verdict) : Nat :=
  l.results.countP (·.verdict = v)

/-- The number of outcomes with each verdict. -/
def summary (l : Ledger) : List (Verdict × Nat) :=
  Verdict.all.map fun v => (v, l.count v)

/-- Whether every record passed. -/
def allPassed (l : Ledger) : Bool :=
  l.results.all Outcome.passed

end Ledger

end Batch

end LittleMan
