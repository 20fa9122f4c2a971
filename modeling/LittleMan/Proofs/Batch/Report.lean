import LittleMan.Proofs.Batch.Ledger
import LittleMan.Proofs.Text.Plain

/-!
# What a ledger tells

A ledger tells of its outcomes in three ways, and all of them are read off the list of outcomes
whenever they are asked for: the number of outcomes with each verdict, whether all records passed,
and the report. The numbers add up to the number of outcomes (`sum_number`).

A report is read row by row. If there is no line feed in the name or the message of an outcome,
nothing can pass for the end of a row, and the rows are the ones that were put there
(`Ledger.splitOn_report`): those of the outcomes in order, each with one row of its status
(`filter_rows`), then how many passed, and one row for each other verdict that occurs.

Together with what a session enters into a ledger, this is `Ledger.session_accounts`.
-/

namespace LittleMan

namespace Text

/-! ### Texts without line feeds -/

/-- There is no line feed in a number. -/
lemma not_mem_digits (n : Nat) : '\n' ∉ digits n := by
  intro h
  have hdigit := Nat.isDigit_of_mem_toDigits (by decide) (by decide) h
  revert hdigit
  decide

lemma not_mem_decimal (n : Int) : '\n' ∉ decimal n := by
  unfold decimal
  split
  · exact List.not_mem_cons_of_ne_of_not_mem (by decide) (not_mem_digits _)
  · exact not_mem_digits _

section

variable {t : Text}

/-- Nor does filling a text with blanks bring one in. -/
lemma not_mem_leftpad (h : '\n' ∉ t) (width : Nat) : '\n' ∉ t.leftpad width ' ' := by
  rw [List.leftpad, List.mem_append]
  rintro (hc | hc)
  · have hblank := List.eq_of_mem_replicate hc
    revert hblank
    decide
  · exact h hc

lemma not_mem_rightpad (h : '\n' ∉ t) (width : Nat) : '\n' ∉ t.rightpad width ' ' := by
  rw [List.rightpad, List.mem_append]
  rintro (hc | hc)
  · exact h hc
  · have hblank := List.eq_of_mem_replicate hc
    revert hblank
    decide

end

end Text

namespace Batch

/-! ### Numbers -/

/-- How many outcomes have a verdict. -/
def number (os : List Outcome) (v : Verdict) : Nat :=
  (os.filter (·.verdict = v)).length

/-- Every outcome has one verdict. -/
lemma sum_number (os : List Outcome) :
    number os .pass + number os .resultMismatch + number os .budgetExceeded +
      number os .executionError = os.length := by
  induction os with
  | nil => rfl
  | cons o os ih =>
    have hcons (v : Verdict) :
        number (o :: os) v = number os v + if o.verdict = v then 1 else 0 := by
      unfold number
      rw [List.filter_cons]
      by_cases h : o.verdict = v
      · simp [h]
      · simp [h]
    rw [hcons, hcons, hcons, hcons, List.length_cons, ← ih]
    cases o.verdict <;> simp <;> omega

namespace Ledger

variable (l : Ledger)

lemma count_eq (v : Verdict) : l.count v = number l.results v := by
  unfold count number
  rw [List.countP_eq_length_filter]

/-- The summary tells the number of outcomes with each verdict. -/
lemma lookup_summary (v : Verdict) : l.summary.lookup v = some (number l.results v) := by
  rw [← count_eq]
  cases v <;> rfl

/-- Every record passed exactly if as many passed as there are. -/
lemma allPassed_iff : l.allPassed = true ↔ number l.results .pass = l.results.length := by
  unfold allPassed number
  rw [List.length_filter_eq_length_iff, List.all_eq_true]
  rfl

end Ledger

/-! ### Rows -/

namespace Outcome

variable (o : Outcome)

/-- The row that tells whether an outcome passed. -/
def statusRow : Text :=
  "  " ++ (if o.verdict = .pass then "PASS" else "FAIL" : Text) ++ "  " ++ o.name.rightpad 20 ' ' ++
    " " ++ o.verdict.name.rightpad 22 ' ' ++ " " ++ (Text.decimal o.cycles).leftpad 6 ' ' ++
    " cycles"

/-- The row below it, if it did not pass. -/
def detailRow : Text :=
  "        " ++ o.detail

/-- The rows of an outcome. -/
lemma rows_eq : o.rows = o.statusRow :: if o.verdict = .pass then [] else [o.detailRow] := by
  unfold rows statusRow detailRow passed
  by_cases h : o.verdict = .pass
  · simp [h]
  · simp [h]

end Outcome

/-- The row opens like one that tells whether an outcome passed. -/
def isStatusRow (row : Text) : Bool :=
  row.take 8 = ("  PASS  " : Text) || row.take 8 = ("  FAIL  " : Text)

/-- The status of an outcome is told in a row that opens so. -/
lemma isStatusRow_statusRow (o : Outcome) : isStatusRow o.statusRow = true := by
  unfold isStatusRow Outcome.statusRow
  by_cases h : o.verdict = .pass
  · simp [h]
  · simp [h]

/-- Every other row has another third character. -/
lemma isStatusRow_eq_false {c : Char} (h : c ≠ 'P' ∧ c ≠ 'F') (rest : Text) :
    isStatusRow (' ' :: ' ' :: c :: rest) = false := by
  simp [isStatusRow, h.1, h.2]

/-- Of the rows of an outcome only the one that tells its status opens so. -/
lemma filter_rows (o : Outcome) : o.rows.filter isStatusRow = [o.statusRow] := by
  have hdetail : isStatusRow o.detailRow = false := isStatusRow_eq_false (c := ' ') (by decide) _
  rw [o.rows_eq, List.filter_cons_of_pos (isStatusRow_statusRow o)]
  split
  · rfl
  · rw [List.filter_cons_of_neg (by simp [hdetail]), List.filter_nil]

/-! ### The report -/

/-- The heading of a report. -/
def headingRows : List Text :=
  [doubleRule, "  LMC Batch Test Results", doubleRule]

/-- The row that tells how many of the outcomes passed. -/
def tallyOf (os : List Outcome) : Text :=
  "  " ++ Text.digits (number os .pass) ++ "/" ++ Text.digits os.length ++ " passed"

/-- It opens with a digit. -/
lemma isStatusRow_tallyOf (os : List Outcome) : isStatusRow (tallyOf os) = false := by
  obtain ⟨d, rest, hdigits⟩ : ∃ d rest, Text.digits (number os .pass) = d :: rest :=
    List.exists_cons_of_ne_nil Nat.toDigits_ne_nil
  have hdigit : d.isDigit = true := by
    apply Nat.isDigit_of_mem_toDigits (b := 10) (by decide) (by decide)
    rw [← Text.digits, hdigits]
    exact List.mem_cons_self
  have hother : d ≠ 'P' ∧ d ≠ 'F' := by
    constructor
    · rintro rfl
      exact absurd hdigit (by decide)
    · rintro rfl
      exact absurd hdigit (by decide)
  unfold tallyOf
  rw [hdigits]
  exact isStatusRow_eq_false hother _

/-- The row that tells how many of the outcomes have a verdict. -/
def numberRow (os : List Outcome) (v : Verdict) : Text :=
  "    " ++ v.name ++ ": " ++ Text.digits (number os v)

/-- The rows of the verdicts other than a pass that occur, each once. -/
def numberRows (os : List Outcome) : List Text :=
  ([.resultMismatch, .budgetExceeded, .executionError].filter (number os · ≠ 0)).map (numberRow os)

/-- The rows are a report on the outcomes. -/
structure IsReportOn (os : List Outcome) (rows : List Text) : Prop where
  /-- Every outcome has its row of status, in order, and no other row opens like one. -/
  status : rows.filter isStatusRow = os.map Outcome.statusRow
  /-- What did not pass is told below its status. The numbers come last. -/
  layout : rows = headingRows ++
    os.flatMap (fun o => o.statusRow :: if o.verdict = .pass then [] else [o.detailRow]) ++
    [singleRule, tallyOf os] ++ numberRows os ++ [doubleRule]

/-- The rows that a report is made of. -/
def reportRows (os : List Outcome) : List Text :=
  headingRows ++ os.flatMap Outcome.rows ++ [singleRule, tallyOf os] ++ numberRows os ++
    [doubleRule]

/-- They are a report on the outcomes. -/
lemma isReportOn_reportRows (os : List Outcome) : IsReportOn os (reportRows os) where
  status := by
    have hheading : headingRows.filter isStatusRow = [] := by decide
    have hbody : (os.flatMap Outcome.rows).filter isStatusRow = os.map Outcome.statusRow := by
      rw [List.filter_flatMap, funext filter_rows, List.map_eq_flatMap]
    have htally : [singleRule, tallyOf os].filter isStatusRow = [] := by
      have hrule : isStatusRow singleRule = false := by decide
      rw [List.filter_cons_of_neg (by simp [hrule]),
        List.filter_cons_of_neg (by simp [isStatusRow_tallyOf]), List.filter_nil]
    have hnumbers : (numberRows os).filter isStatusRow = [] := by
      rw [List.filter_eq_nil_iff]
      intro row hrow
      obtain ⟨v, -, rfl⟩ := List.mem_map.mp hrow
      have hnumber : isStatusRow (numberRow os v) = false :=
        isStatusRow_eq_false (c := ' ') (by decide) _
      simp [hnumber]
    have hrule : [doubleRule].filter isStatusRow = [] := by decide
    unfold reportRows
    rw [List.filter_append, List.filter_append, List.filter_append, List.filter_append, hheading,
      hbody, htally, hnumbers, hrule, List.append_nil, List.append_nil, List.append_nil,
      List.nil_append]
  layout := by
    unfold reportRows
    rw [funext Outcome.rows_eq]

/-- There is no line feed in the rows of an outcome, if there is none in the texts that it shows. -/
lemma not_mem_rows {o : Outcome} (hname : '\n' ∉ o.name) (hmessage : '\n' ∉ o.message)
    (hkind : ∀ kind, o.errorKind = some kind → '\n' ∉ kind) : ∀ row ∈ o.rows, '\n' ∉ row := by
  have hstatus : '\n' ∉ o.statusRow := by
    have hopening : '\n' ∉ (if o.verdict = .pass then "PASS" else "FAIL" : Text) := by
      split <;> decide
    have hverdict : '\n' ∉ o.verdict.name := by
      cases o.verdict <;> decide
    have hshown := Text.not_mem_rightpad hname 20
    have hpadded := Text.not_mem_rightpad hverdict 22
    have hcycles := Text.not_mem_leftpad (Text.not_mem_decimal o.cycles) 6
    unfold Outcome.statusRow
    simp only [List.mem_append, not_or]
    refine ⟨⟨⟨⟨⟨⟨⟨⟨?_, hopening⟩, ?_⟩, hshown⟩, ?_⟩, hpadded⟩, ?_⟩, hcycles⟩, ?_⟩ <;> decide
  have hdetail : '\n' ∉ o.detailRow := by
    have hshown : '\n' ∉ o.detail := by
      unfold Outcome.detail
      split
      · next kind heq =>
        simp only [List.mem_append, not_or]
        exact ⟨⟨hkind kind heq, by decide⟩, hmessage⟩
      · exact hmessage
    unfold Outcome.detailRow
    rw [List.mem_append, not_or]
    exact ⟨by decide, hshown⟩
  rw [o.rows_eq]
  split
  · exact List.forall_mem_singleton.mpr hstatus
  · exact List.forall_mem_cons.mpr ⟨hstatus, List.forall_mem_singleton.mpr hdetail⟩

/-- Nor is there one in any other row of a report. -/
lemma not_mem_reportRows {os : List Outcome}
    (h : ∀ o ∈ os, '\n' ∉ o.name ∧ '\n' ∉ o.message ∧
      ∀ kind, o.errorKind = some kind → '\n' ∉ kind) :
    ∀ row ∈ reportRows os, '\n' ∉ row := by
  have hheading : ∀ row ∈ headingRows, '\n' ∉ row := by decide
  have hbody : ∀ row ∈ os.flatMap Outcome.rows, '\n' ∉ row := by
    intro row hrow
    obtain ⟨o, ho, hrow⟩ := List.mem_flatMap.mp hrow
    obtain ⟨hname, hmessage, hkind⟩ := h o ho
    exact not_mem_rows hname hmessage hkind row hrow
  have htally : '\n' ∉ tallyOf os := by
    unfold tallyOf
    simp only [List.mem_append, not_or]
    exact ⟨⟨⟨⟨by decide, Text.not_mem_digits _⟩, by decide⟩, Text.not_mem_digits _⟩, by decide⟩
  have hnumbers : ∀ row ∈ numberRows os, '\n' ∉ row := by
    intro row hrow
    obtain ⟨v, -, rfl⟩ := List.mem_map.mp hrow
    have hverdict : '\n' ∉ v.name := by
      cases v <;> decide
    unfold numberRow
    simp only [List.mem_append, not_or]
    exact ⟨⟨⟨by decide, hverdict⟩, by decide⟩, Text.not_mem_digits _⟩
  unfold reportRows
  simp only [List.forall_mem_append]
  refine ⟨⟨⟨⟨hheading, hbody⟩, ?_⟩, hnumbers⟩, by decide⟩
  exact List.forall_mem_cons.mpr ⟨by decide, List.forall_mem_singleton.mpr htally⟩

namespace Ledger

/-- A report is made of these rows. -/
lemma report_eq (l : Ledger) : l.report = Text.joinRows (reportRows l.results) := by
  have htally : l.tallyRow = tallyOf l.results := by
    unfold tallyRow tallyOf
    rw [count_eq]
  have hnumbers : l.summary.filterMap (fun p => verdictRow? p.1 p.2) = numberRows l.results := by
    have hrow (v : Verdict) (hv : v ≠ .pass) : verdictRow? v (l.count v) =
        if number l.results v ≠ 0 then some (numberRow l.results v) else none := by
      unfold verdictRow? numberRow
      rw [count_eq]
      by_cases h : number l.results v = 0
      · simp [h]
      · simp [h, hv]
    unfold summary numberRows
    rw [List.filterMap_map, ← List.filterMap_eq_map, List.filterMap_filter]
    change List.filterMap _ [Verdict.resultMismatch, .budgetExceeded, .executionError] = _
    apply List.filterMap_congr
    intro v hv
    have hne : v ≠ .pass := by
      rintro rfl
      exact absurd hv (by decide)
    simp only [Function.comp, hrow v hne, decide_eq_true_eq]
  have hrows : l.report = Text.joinRows (headingRows ++ l.results.flatMap Outcome.rows ++
      [singleRule, l.tallyRow] ++ l.summary.filterMap (fun p => verdictRow? p.1 p.2) ++
      [doubleRule]) := rfl
  rw [hrows, htally, hnumbers]
  rfl

/-- So they are what is read in a report, if no text that is shown in it brings a row to an end. -/
theorem splitOn_report {l : Ledger}
    (h : ∀ o ∈ l.results, '\n' ∉ o.name ∧ '\n' ∉ o.message ∧
      ∀ kind, o.errorKind = some kind → '\n' ∉ kind) :
    l.report.splitOn '\n' = reportRows l.results := by
  rw [report_eq]
  apply List.splitOn_intercalate '\n' (not_mem_reportRows h)
  exact List.append_ne_nil_of_right_ne_nil _ (List.cons_ne_nil _ _)

end Ledger

/-! ### Sessions -/

/-- The name of a kind of fault that is one of the machine's own is on one row. -/
lemma not_mem_name_of_isOwn {kind : Fault.Kind} (h : kind.isOwn = true) : '\n' ∉ kind.name := by
  cases kind with
  | foreign name => cases h
  | _ => decide

/-- The error of an outcome that is produced is told under a name of its own. -/
lemma errorKind_of_settled {image : Option (List Datum)} {entry : Except Record.Error Record}
    {o : Outcome} (h : settled image entry = .ok o) :
    ∀ kind, o.errorKind = some kind → '\n' ∉ kind := by
  cases entry with
  | error e =>
    rw [settled_malformed] at h
    obtain rfl := Except.ok.inj h
    rintro kind ⟨⟩
    decide
  | ok record =>
    cases image with
    | none => cases h
    | some image =>
      have htried : (trial image record).2 = .ok o := h
      rcases hended : Machine.runProgram {} image record.inputs
        (record.budget.getD Machine.defaultBudget) with ⟨after, (f | budget | overflow) | r⟩
      · obtain ⟨hown, rfl⟩ := eq_failedOutcome hended htried
        have hkind : f.kind.isOwn = true := (Bool.and_eq_true_iff.mp hown).1
        rintro kind ⟨⟩
        exact not_mem_name_of_isOwn hkind
      · rw [trial_of_program hended] at htried
        cases htried
      · rw [trial_of_program hended] at htried
        cases htried
      · obtain rfl := eq_endedOutcome hended htried
        exact nofun

namespace Ledger

/-- The ledger accounts for a session that it was opened for with the given image, or with none. -/
structure Accounts (image : Option (List Datum)) (requests : List Request) (l : Ledger) : Prop where
  /-- It has all outcomes that the requests produced, request by request. -/
  results : l.results = requests.flatMap (·.outcomes image)
  /-- Whatever is tried next enters its outcomes behind those, also if it is refused. -/
  trials : ∀ request : Request, request.tries = true → TrialCases l request (l.handle request)
  /-- Any other request changes nothing. -/
  telling : ∀ request : Request, request.tries = false → (l.handle request).1 = l
  /-- The summary has the number of outcomes with each verdict. -/
  verdicts : l.summary.map Prod.fst = Verdict.all
  numbers : ∀ v, l.summary.lookup v = some (number l.results v)
  sum : number l.results .pass + number l.results .resultMismatch +
    number l.results .budgetExceeded + number l.results .executionError = l.results.length
  allPassed_iff : l.allPassed = true ↔ number l.results .pass = l.results.length
  report : (∀ o ∈ l.results, '\n' ∉ o.name ∧ '\n' ∉ o.message) →
    IsReportOn l.results (l.report.splitOn '\n')

/-- At every point of a session a ledger accounts for all that came of it, and an entry that is
refused is refused for one of three reasons: it is a record for which there is no image, or a record
that could be run but for its negative budget, or its outcome has a number to show that cannot be
written. -/
theorem session_accounts (image : Option (List Datum)) (requests : List Request) :
    Accounts image requests (session { image } requests) ∧
    ∀ (chosen : Option (List Datum)) (entry : Except Record.Error Record),
      (settled chosen entry = .error .noImage ↔ chosen = none ∧ ∃ record, entry = .ok record) ∧
      (∀ budget, settled chosen entry = .error (.negativeBudget budget) ↔ ∃ words record,
        chosen = some words ∧ entry = .ok record ∧ record.budget = some budget ∧ budget < 0 ∧
          ∃ ready, Machine.Prepared words record.inputs ready) ∧
      ∀ o, settled chosen entry = .error (.overflow o) → o = .writing ∧ ∃ words record,
        chosen = some words ∧ entry = .ok record ∧ ¬ IsShowable words record := by
  have hresults : (session { image } requests).results = requests.flatMap (·.outcomes image) :=
    (extends_session { image } requests).results.trans (List.nil_append _)
  generalize session { image } requests = l at hresults
  have hkinds : ∀ o ∈ l.results, ∀ kind, o.errorKind = some kind → '\n' ∉ kind := by
    intro o ho
    rw [hresults] at ho
    obtain ⟨request, -, ho⟩ := List.mem_flatMap.mp ho
    obtain ⟨entry, hentry⟩ := Request.exists_settled_of_mem_outcomes ho
    exact errorKind_of_settled hentry
  refine ⟨?_, ?_⟩
  · exact {
      results := hresults
      trials := fun _ => l.trial_cases
      telling := fun _ => l.handle_of_not_tries
      verdicts := rfl
      numbers := l.lookup_summary
      sum := sum_number l.results
      allPassed_iff := l.allPassed_iff
      report := by
        intro htexts
        rw [splitOn_report fun o ho => ⟨(htexts o ho).1, (htexts o ho).2, hkinds o ho⟩]
        exact isReportOn_reportRows l.results }
  · intro chosen entry
    exact ⟨settled_eq_noImage_iff chosen entry, settled_eq_negativeBudget_iff chosen entry,
      fun _ => of_settled_eq_overflow⟩

/-- A session in which a program passes, another one fails, and a suite is refused at its second
record: the first one of the suite stays, and the third one is not tried. -/
theorem session_accounts_refused :
    ∃ l, l = session { image := some [.integer 0] }
        [.suite none [⟨"halting", [], none, some 9⟩],
          .record (some [.integer 400]) ⟨"failing", [], none, some 9⟩,
          .suite none [⟨"first", [], some 7, some 9⟩, ⟨"second", [], none, some (-1)⟩,
            ⟨"third", [], none, some 9⟩]] ∧
      l.results.map (fun o => (o.name, o.verdict)) =
        [("halting".toList, .pass), ("failing".toList, .executionError),
          ("first".toList, .resultMismatch)] ∧
      IsReportOn l.results (l.report.splitOn '\n') := by
  obtain ⟨haccounts, -⟩ := session_accounts (some [.integer 0])
    [.suite none [⟨"halting", [], none, some 9⟩],
      .record (some [.integer 400]) ⟨"failing", [], none, some 9⟩,
      .suite none [⟨"first", [], some 7, some 9⟩, ⟨"second", [], none, some (-1)⟩,
        ⟨"third", [], none, some 9⟩]]
  refine ⟨_, rfl, by decide, ?_⟩
  apply haccounts.report
  decide

end Ledger

end Batch

end LittleMan
