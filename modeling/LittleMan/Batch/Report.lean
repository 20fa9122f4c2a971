import LittleMan.Batch.Ledger

/-!
# The report of a batch

A report shows a ledger: a row for each outcome, and below it the error or the mismatch if there was
one; then how many records passed, and how many ended with each of the other verdicts.
-/

namespace LittleMan

namespace Batch

/-- The double rule of a report. -/
def doubleRule : Text :=
  List.replicate 60 '═'

/-- The single rule of a report. -/
def singleRule : Text :=
  List.replicate 60 '─'

/-- The error or the mismatch of an outcome in words. -/
def Outcome.detail (o : Outcome) : Text :=
  match o.errorKind with
  | some kind => kind ++ ": " ++ o.message
  | none => o.message

/-- The rows of an outcome. -/
def Outcome.rows (o : Outcome) : List Text :=
  let status : Text := if o.passed then "PASS" else "FAIL"
  let row : Text :=
    "  " ++ status ++ "  " ++ o.name.rightpad 20 ' ' ++ " " ++ o.verdict.name.rightpad 22 ' ' ++
      " " ++ (Text.decimal o.cycles).leftpad 6 ' ' ++ " cycles"
  if o.passed then [row] else [row, "        " ++ o.detail]

/-- The row of a verdict other than a pass, if there is an outcome with it. -/
def verdictRow? (v : Verdict) (count : Nat) : Option Text :=
  if v = .pass ∨ count = 0 then none
  else some ("    " ++ v.name ++ ": " ++ Text.digits count)

namespace Ledger

/-- The row that says how many records passed. -/
def tallyRow (l : Ledger) : Text :=
  "  " ++ Text.digits (l.count .pass) ++ "/" ++ Text.digits l.results.length ++ " passed"

/-- The report of a ledger. -/
def report (l : Ledger) : Text :=
  Text.joinRows <|
    [doubleRule, "  LMC Batch Test Results", doubleRule] ++
    l.results.flatMap Outcome.rows ++
    [singleRule, l.tallyRow] ++
    l.summary.filterMap (fun (v, n) => verdictRow? v n) ++
    [doubleRule]

end Ledger

end Batch

end LittleMan
