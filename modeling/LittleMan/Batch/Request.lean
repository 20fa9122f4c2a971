import LittleMan.Batch.Report

/-!
# Requests to a ledger

Everything that can be asked of a ledger, as one type, with one function that carries a request out.
Trials may be asked for on an image other than the one of the ledger. The outcomes of a session are
those of its requests, in order.
-/

namespace LittleMan

namespace Batch

namespace Ledger

/-- What can be asked of a ledger. -/
inductive Request where
  /-- Try a record. -/
  | record (override : Option (List Datum)) (r : Record)
  /-- Try records in order. -/
  | suite (override : Option (List Datum)) (rs : List Record)
  /-- Run a test file. -/
  | file (override : Option (List Datum)) (t : Text)
  /-- Count the outcomes with each verdict. -/
  | summary
  /-- Show the report. -/
  | report
  /-- Tell the outcomes so far. -/
  | results
deriving DecidableEq, Repr

/-- What a ledger answers to a request that is not refused. -/
inductive Reply where
  | outcome (o : Outcome)
  | outcomes (os : List Outcome)
  | summary (counts : List (Verdict × Nat))
  | report (t : Text)
deriving DecidableEq, Repr

/-- Carries out a request: the ledger afterwards, and the answer or the refusal. -/
def handle (l : Ledger) : Request → Ledger × Except Error Reply
  | .record override r =>
    let (after, answer) := l.runRecord override r
    (after, answer.map .outcome)
  | .suite override rs =>
    let (after, answer) := l.runSuite override rs
    (after, answer.map .outcomes)
  | .file override t =>
    let (after, answer) := l.runFile override t
    (after, answer.map .outcomes)
  | .summary => (l, .ok (.summary l.summary))
  | .report => (l, .ok (.report l.report))
  | .results => (l, .ok (.outcomes l.results))

/-- Carries out the requests of a session one after the other. -/
def session (l : Ledger) : List Request → Ledger
  | [] => l
  | request :: rest => (l.handle request).1.session rest

end Ledger

end Batch

end LittleMan
