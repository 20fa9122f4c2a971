import LittleMan.Proofs.Batch.Ledger
import LittleMan.Proofs.Batch.RecordLine

/-!
# Test files

A test file is read line by line. The lines that count are those that are neither blank nor opened
by `#` when blanks are removed at their ends (`recordLines`); each of them is a record or is
malformed, whatever the other lines are, if it can be read at all (`IsReadable`). There are two ways
to take a file. The tolerant one gives an outcome for every line that counts, in order
(`runFile_outcomes`): for a record that of its trial, and for a malformed line a failure that names
the line (`IsOutcomeOf`). So blanking a line takes away its outcome and no other one
(`recordLines_of_isBlanked`, `zip_filter_of_outcomes`). The strict one refuses the file with the
first malformed line (`parseFile_eq_error_iff`); a file that it takes gives the same outcomes in
both ways (`runSuite_of_parseFile`).

A line that cannot be read, since a numeral on it has too many digits, takes the others with it: no
outcome of the file is entered (`runFile_of_not_isReadable`).
-/

namespace LittleMan

namespace Batch

open Machine

/-! ### Lines that count -/

/-- The rows of which the first has a given number, blanks removed at their ends, without those that
are empty or opened by `#`; each with its number. -/
def recordLinesFrom (number : Nat) (rows : List Text) : List (Text × Nat) :=
  ((rows.map Text.strip).zipIdx number).filter fun line => line.1 ≠ [] ∧ line.1.head? ≠ some '#'

/-- The lines of a test file that are neither blank nor opened by `#`, blanks removed at their ends;
each with its number. -/
def recordLines (t : Text) : List (Text × Nat) :=
  recordLinesFrom 1 (Text.lines t)

section

variable {number : Nat} {row : Text} {rows : List Text}

lemma recordLinesFrom_cons (number : Nat) (row : Text) (rows : List Text) :
    recordLinesFrom number (row :: rows) =
      if Record.isRecordLine (Text.strip row) then
        (Text.strip row, number) :: recordLinesFrom (number + 1) rows
      else recordLinesFrom (number + 1) rows := by
  have hiff : (Text.strip row ≠ [] ∧ (Text.strip row).head? ≠ some '#') ↔
      Record.isRecordLine (Text.strip row) = true := by
    simp [Record.isRecordLine]
  unfold recordLinesFrom
  rw [List.map_cons, List.zipIdx_cons, List.filter_cons]
  simp only [decide_eq_true_eq, hiff]

/-- The lines that are read are the lines that count. -/
lemma numberedLines_eq (t : Text) : Record.numberedLines t = (recordLines t).map Prod.swap := by
  unfold Record.numberedLines recordLines
  generalize Text.lines t = rows
  generalize 1 = number
  induction rows generalizing number with
  | nil => rfl
  | cons row rows ih =>
    rw [recordLinesFrom_cons, List.zipIdx_cons, List.map_cons, List.filter_cons, ih]
    cases Record.isRecordLine (Text.strip row) with
    | true => simp
    | false => simp

/-- What is read of a test file is what is read of the lines that count. -/
lemma scan_eq_mapM (t : Text) :
    Record.scan t = (recordLines t).mapM fun line => Record.entry line.2 line.1 := by
  unfold Record.scan
  rw [numberedLines_eq, List.mapM_map]
  rfl

/-- A line that counts is one of the rows, and is not blank. -/
lemma exists_of_mem_recordLinesFrom {line : Text × Nat} (h : line ∈ recordLinesFrom number rows) :
    ∃ k, line.2 = number + k ∧ line.1 = Text.strip (rows.getD k []) ∧ line.1 ≠ [] := by
  obtain ⟨hmem, hcounts⟩ := List.mem_filter.mp h
  obtain ⟨hle, hlt, htext⟩ := List.mem_zipIdx hmem
  have hcounts' := of_decide_eq_true hcounts
  refine ⟨line.2 - number, by omega, ?_, hcounts'.1⟩
  rw [htext, List.getElem_map]
  congr 1
  rw [List.getD_eq_getElem?_getD, List.getElem?_eq_getElem, Option.getD_some]

/-- The numbers of lines start with one. -/
lemma one_le_of_mem_recordLines {t : Text} {line : Text × Nat} (h : line ∈ recordLines t) :
    1 ≤ line.2 := by
  obtain ⟨k, hk, -, -⟩ := exists_of_mem_recordLinesFrom h
  omega

end

/-! ### Lines that can be read -/

/-- Every line that counts can be read, be it as a record or as malformed. -/
def IsReadable (t : Text) : Prop :=
  ∀ line ∈ recordLines t, ∀ o, Record.parse line.2 line.1 ≠ .error (.overflow o)

section

variable {number : Int} {line t : Text}

/-- An entry is the record of a line, or the error of a malformed one. -/
lemma entry_eq_ok_iff {entry : Except Record.Error Record} : Record.entry number line = .ok entry ↔
    (∃ record, Record.parse number line = .ok record ∧ entry = .ok record) ∨
      ∃ e, Record.parse number line = .error (.malformed e) ∧ entry = .error e := by
  unfold Record.entry
  rcases Record.parse number line with (e | o) | record
  · simp [eq_comm]
  · simp
  · simp [eq_comm]

/-- There is one of every line that can be read. -/
lemma exists_entry_iff : (∃ entry, Record.entry number line = .ok entry) ↔
    ∀ o, Record.parse number line ≠ .error (.overflow o) := by
  unfold Record.entry
  rcases Record.parse number line with (e | o) | record <;> simp

/-- A test file is read as an entry for each line that counts. -/
lemma scan_eq_ok_iff {entries : List (Except Record.Error Record)} : Record.scan t = .ok entries ↔
    List.Forall₂ (fun line entry => Record.entry line.2 line.1 = .ok entry)
      (recordLines t) entries := by
  rw [scan_eq_mapM, mapM_eq_ok_iff]

/-- So it is read exactly if each of these lines can be. -/
lemma exists_scan_iff : (∃ entries, Record.scan t = .ok entries) ↔ IsReadable t := by
  unfold IsReadable
  rw [scan_eq_mapM, exists_mapM_eq_ok_iff]
  simp only [exists_entry_iff]

/-- Otherwise it is refused as a whole. -/
lemma exists_overflow_of_scan (h : ¬ IsReadable t) : ∃ o, Record.scan t = .error o := by
  cases hscan : Record.scan t with
  | ok entries => exact absurd (exists_scan_iff.mp ⟨entries, hscan⟩) h
  | error o => exact ⟨o, rfl⟩

end

/-! ### Blanking lines -/

/-- The second text is the first one with the lines of some numbers made blank. Behind the last line
of a text there are empty ones. -/
structure IsBlanked (blanked : Nat → Bool) (t t' : Text) : Prop where
  blank : ∀ k, blanked (k + 1) = true → Text.strip ((Text.lines t').getD k []) = []
  kept : ∀ k, blanked (k + 1) = false → (Text.lines t').getD k [] = (Text.lines t).getD k []

/-- Any lines can be made blank. -/
lemma exists_isBlanked (blanked : Nat → Bool) (t : Text) : ∃ t', IsBlanked blanked t t' := by
  let rows := (Text.lines t).mapIdx fun k row => if blanked (k + 1) then [] else row
  have hrows : ∀ k, rows.getD k [] =
      if blanked (k + 1) then [] else (Text.lines t).getD k [] := by
    intro k
    simp only [rows, List.getD_eq_getElem?_getD, List.getElem?_mapIdx]
    cases (Text.lines t)[k]? <;> simp
  have hbreaks : ∀ row ∈ rows, ∀ c ∈ row, Text.isLineBreak c = false := by
    intro row hrow
    obtain ⟨k, hk, rfl⟩ := List.mem_mapIdx.mp hrow
    split
    · exact fun c hc => absurd hc List.not_mem_nil
    · exact Text.isLineBreak_of_mem_lines t _ (List.getElem_mem hk)
  refine ⟨Text.closeRows rows, fun k hk => ?_, fun k hk => ?_⟩
  · rw [Text.lines_closeRows hbreaks, hrows, if_pos hk]
    rfl
  · rw [Text.lines_closeRows hbreaks, hrows, hk]
    rfl

section

variable {blanked : Nat → Bool} {number : Nat} {rows rows' : List Text}

/-- Of rows that are blank where their numbers are chosen, no chosen one counts. -/
lemma filter_recordLinesFrom_eq_nil (chosen : Nat → Bool)
    (h : ∀ k, chosen (number + k) = true → Text.strip (rows.getD k []) = []) :
    (recordLinesFrom number rows).filter (fun line => chosen line.2) = [] := by
  rw [List.filter_eq_nil_iff]
  intro line hline hchosen
  obtain ⟨k, hk, htext, hne⟩ := exists_of_mem_recordLinesFrom hline
  rw [hk] at hchosen
  rw [h k hchosen] at htext
  exact hne htext

/-- Of rows some of which are made blank the others count as before. -/
lemma recordLinesFrom_of_blanked
    (hblank : ∀ k, blanked (number + k) = true → Text.strip (rows'.getD k []) = [])
    (hkept : ∀ k, blanked (number + k) = false → rows'.getD k [] = rows.getD k []) :
    recordLinesFrom number rows' =
      (recordLinesFrom number rows).filter fun line => !blanked line.2 := by
  induction rows generalizing number rows' with
  | nil =>
    -- no row is left, so every row that is kept is empty
    have hall : ∀ k, true = true → Text.strip (rows'.getD k []) = [] := by
      intro k _
      cases hk : blanked (number + k) with
      | true => exact hblank k hk
      | false =>
        rw [hkept k hk]
        rfl
    have hnone : (recordLinesFrom number rows').filter (fun _ => true) = [] :=
      filter_recordLinesFrom_eq_nil (fun _ => true) hall
    rw [List.filter_true] at hnone
    rw [hnone]
    rfl
  | cons row rows ih =>
    cases rows' with
    | nil =>
      have hall : ∀ k, (!blanked (number + k)) = true →
          Text.strip ((row :: rows).getD k []) = [] := by
        intro k hk
        rw [← hkept k (by simpa using hk)]
        rfl
      exact (filter_recordLinesFrom_eq_nil (fun number => !blanked number) hall).symm
    | cons row' rows' =>
      have hrest : recordLinesFrom (number + 1) rows' =
          (recordLinesFrom (number + 1) rows).filter fun line => !blanked line.2 := by
        apply ih
        · intro k hk
          have hnext := hblank (k + 1)
          rw [List.getD_cons_succ] at hnext
          exact hnext (by rwa [Nat.add_right_comm] at hk)
        · intro k hk
          have hnext := hkept (k + 1)
          rw [List.getD_cons_succ, List.getD_cons_succ] at hnext
          exact hnext (by rwa [Nat.add_right_comm] at hk)
      rw [recordLinesFrom_cons, recordLinesFrom_cons, hrest]
      cases hnumber : blanked number with
      | true =>
        have hrow' : Text.strip row' = [] := hblank 0 hnumber
        rw [hrow', if_neg (by decide)]
        split
        · rw [List.filter_cons_of_neg (by simp [hnumber])]
        · rfl
      | false =>
        obtain rfl : row' = row := hkept 0 hnumber
        split
        · rw [List.filter_cons_of_pos (by simp [hnumber])]
        · rfl

/-- Of a text with lines made blank the other lines count as before. -/
theorem recordLines_of_isBlanked {t t' : Text} (h : IsBlanked blanked t t') :
    recordLines t' = (recordLines t).filter fun line => !blanked line.2 := by
  apply recordLinesFrom_of_blanked
  · intro k hk
    exact h.blank k (by rwa [Nat.add_comm] at hk)
  · intro k hk
    exact h.kept k (by rwa [Nat.add_comm] at hk)

end

/-! ### The strict way -/

/-- A test file is taken exactly if every line that counts is a record. -/
lemma parseFile_eq_ok_iff (t : Text) (records : List Record) :
    Record.parseFile t = .ok records ↔ Record.scan t = .ok (records.map .ok) := by
  unfold Record.parseFile
  cases Record.scan t with
  | error o => simp
  | ok entries => simp [mapError_eq_ok_iff, mapM_id_eq_ok_iff]

/-- What entries are refused for is what their lines are refused for, if all lines can be read. -/
lemma mapM_parse {lines : List (Text × Nat)} {entries : List (Except Record.Error Record)}
    (h : List.Forall₂ (fun line entry => Record.entry line.2 line.1 = .ok entry) lines entries) :
    (entries.mapM id).mapError Record.Refusal.malformed =
      lines.mapM fun line => Record.parse line.2 line.1 := by
  induction h with
  | nil => rfl
  | cons hentry _ ih =>
    rw [List.mapM_cons, List.mapM_cons, ← ih]
    obtain ⟨record, hparse, rfl⟩ | ⟨e, hparse, rfl⟩ := entry_eq_ok_iff.mp hentry
    · rw [hparse]
      rcases List.mapM id _ with e | records <;> rfl
    · rw [hparse]
      rfl

section

variable {t : Text}

/-- If all lines that count can be read, they are read one after the other. -/
lemma parseFile_eq_mapM (h : IsReadable t) :
    Record.parseFile t = (recordLines t).mapM fun line => Record.parse line.2 line.1 := by
  obtain ⟨entries, hscan⟩ := exists_scan_iff.mpr h
  unfold Record.parseFile
  rw [hscan]
  exact mapM_parse (scan_eq_ok_iff.mp hscan)

/-- So a test file is refused with the first line that counts and is malformed. -/
theorem parseFile_eq_error_iff (h : IsReadable t) (refusal : Record.Refusal) :
    Record.parseFile t = .error refusal ↔ ∃ before line after,
      recordLines t = before ++ line :: after ∧
        (∀ earlier ∈ before, ∃ record, Record.parse earlier.2 earlier.1 = .ok record) ∧
        Record.parse line.2 line.1 = .error refusal := by
  rw [parseFile_eq_mapM h, mapM_eq_error_iff]

/-- A test file is refused exactly if some line that counts is malformed. -/
lemma exists_parseFile_eq_error_iff (h : IsReadable t) :
    (∃ refusal, Record.parseFile t = .error refusal) ↔
      ∃ line ∈ recordLines t, ∃ e, Record.parse line.2 line.1 = .error (.malformed e) := by
  constructor
  · rintro ⟨refusal, hrefusal⟩
    obtain ⟨before, line, after, hlines, -, hline⟩ := (parseFile_eq_error_iff h refusal).mp hrefusal
    have hmem : line ∈ recordLines t := hlines ▸ List.mem_append_right before List.mem_cons_self
    cases refusal with
    | malformed e => exact ⟨line, hmem, e, hline⟩
    | overflow o => exact absurd hline (h line hmem o)
  · rintro ⟨line, hmem, e, hline⟩
    cases htaken : Record.parseFile t with
    | error refusal => exact ⟨refusal, rfl⟩
    | ok records =>
      rw [parseFile_eq_mapM h] at htaken
      obtain ⟨record, hrecord⟩ := exists_mapM_eq_ok_iff.mp ⟨records, htaken⟩ line hmem
      cases hrecord.symm.trans hline

end

namespace Ledger

/-- A test file that is taken gives the same in both ways. -/
theorem runSuite_of_parseFile {t : Text} {records : List Record}
    (h : Record.parseFile t = .ok records) (l : Ledger) (override : Option (List Datum)) :
    l.runSuite override records = l.runFile override t := by
  rw [runSuite_eq_runEntries, runFile, (parseFile_eq_ok_iff t records).mp h]

end Ledger

/-! ### The tolerant way -/

/-- The outcome of a line that counts, tried on an image. -/
inductive IsOutcomeOf (image : List Datum) (line : Text) (number : Nat) (o : Outcome) : Prop where
  /-- A record has the outcome of its trial. -/
  | tried (record : Record) (parse : Record.parse number line = .ok record)
      (trial : (trial image record).2 = .ok o)
  /-- A malformed line is a failure without a run. It is named by what stands before the first
  semicolon, or else by its number, and the number is told. -/
  | malformed (cause : Record.Cause)
      (parse : Record.parse number line = .error (.malformed ⟨cause, number, line⟩))
      (name : o.name = if Text.strip (Text.before ';' line) = [] then
        "line " ++ Text.decimal number else Text.strip (Text.before ';' line))
      (verdict : o.verdict = .executionError) (errorKind : o.errorKind = some "MalformedTestRecord")
      (message : o.message = "Line " ++ Text.decimal number ++ ": " ++ cause.reason)
      (expected : o.expected = none) (observed : o.observed = none)
      (outputs : o.outputs = []) (cycles : o.cycles = 0)

section

variable {image : List Datum} {line : Text} {number : Nat} {o : Outcome}

/-- A malformed line is told with its number and its text. -/
lemma eq_of_parse_error {e : Record.Error}
    (h : Record.parse number line = .error (.malformed e)) :
    ∃ cause, e = ⟨cause, number, line⟩ := by
  obtain ⟨cause, hcause⟩ | ⟨_, -, hoverflow⟩ | ⟨-, hoverflow⟩ := refusal_of_parse h
  · exact ⟨cause, Record.Refusal.malformed.inj hcause⟩
  · cases hoverflow
  · cases hoverflow

/-- The outcome of a record that is read can show all of its numbers, if that of the image can. -/
lemma isShowable_of_parse {record : Record} (himage : AreShowable image)
    (h : Record.parse number line = .ok record) : IsShowable image record := by
  obtain ⟨c, rfl, hbudget⟩ := exists_content_of_parse h
  have hword {n : Nat} (hn : n ≤ 999) : Text.isWritable n = true :=
    Text.isWritable_of_isWord ⟨Int.natCast_nonneg n, by omega⟩
  refine ⟨himage, ?_, ?_, ?_⟩
  · intro d hd
    obtain ⟨n, hn, rfl⟩ := List.mem_map.mp hd
    exact hword (c.inputs_le n hn)
  · intro value hvalue
    obtain ⟨n, hn, rfl⟩ := Option.map_eq_some_iff.mp hvalue
    exact hword (c.result_le n hn)
  · intro n hn
    obtain rfl := Option.some.inj hn
    exact hbudget

/-- Every line that is read has an outcome. -/
lemma exists_outcomeOf (himage : AreShowable image) {entry : Except Record.Error Record}
    (h : Record.entry number line = .ok entry) : ∃ o, outcomeOf image entry = .ok o := by
  obtain ⟨record, hparse, rfl⟩ | ⟨e, -, rfl⟩ := entry_eq_ok_iff.mp h
  · obtain ⟨c, hc, -⟩ := exists_content_of_parse hparse
    have hbudget : record.budget = some ((c.budget : Nat) : Int) := by rw [hc]; rfl
    exact exists_outcome (isShowable_of_parse himage hparse) hbudget
  · exact ⟨.ofMalformed e, rfl⟩

/-- It is the outcome that such a line is to have. -/
lemma isOutcomeOf_of_outcomeOf {entry : Except Record.Error Record} (hnumber : 1 ≤ number)
    (hentry : Record.entry number line = .ok entry) (h : outcomeOf image entry = .ok o) :
    IsOutcomeOf image line number o := by
  obtain ⟨record, hparse, rfl⟩ | ⟨e, hparse, rfl⟩ := entry_eq_ok_iff.mp hentry
  · exact .tried record hparse h
  · obtain ⟨cause, rfl⟩ := eq_of_parse_error hparse
    obtain rfl := Except.ok.inj h
    have hname : (Outcome.ofMalformed ⟨cause, number, line⟩).name =
        if Text.strip (Text.before ';' line) = [] then "line " ++ Text.decimal number
        else Text.strip (Text.before ';' line) := by
      unfold Outcome.ofMalformed
      simp only [List.isEmpty_iff]
    have hmessage : (Outcome.ofMalformed ⟨cause, number, line⟩).message =
        "Line " ++ Text.decimal number ++ ": " ++ cause.reason := by
      have hne : (number : Int) ≠ 0 := by omega
      exact if_neg hne
    exact .malformed cause hparse hname rfl rfl hmessage rfl rfl rfl rfl

/-- A line has one outcome. -/
lemma IsOutcomeOf.unique {o' : Outcome} (h : IsOutcomeOf image line number o)
    (h' : IsOutcomeOf image line number o') : o = o' := by
  cases h with
  | tried record parse trial =>
    cases h' with
    | tried record' parse' trial' =>
      obtain rfl := Except.ok.inj (parse.symm.trans parse')
      exact Except.ok.inj (trial.symm.trans trial')
    | malformed cause parse' => cases parse.symm.trans parse'
  | malformed cause parse name verdict errorKind message expected observed outputs cycles =>
    cases h' with
    | tried record parse' => cases parse.symm.trans parse'
    | malformed cause' parse' name' verdict' errorKind' message' expected' observed' outputs'
        cycles' =>
      have heq := Except.error.inj (parse.symm.trans parse')
      obtain rfl : cause = cause' := congrArg Record.Error.cause (Record.Refusal.malformed.inj heq)
      obtain ⟨⟩ := o
      obtain ⟨⟩ := o'
      rw [Outcome.mk.injEq]
      exact ⟨name.trans name'.symm, verdict.trans verdict'.symm, expected.trans expected'.symm,
        observed.trans observed'.symm, outputs.trans outputs'.symm, cycles.trans cycles'.symm,
        errorKind.trans errorKind'.symm, message.trans message'.symm⟩

/-- A line has passed exactly if it is a record and its trial has. -/
lemma IsOutcomeOf.passed_iff (h : IsOutcomeOf image line number o) :
    o.passed = true ↔ ∃ record tried, Record.parse number line = .ok record ∧
      (trial image record).2 = .ok tried ∧ tried.verdict = .pass := by
  have hpassed : o.passed = true ↔ o.verdict = .pass := decide_eq_true_iff
  rw [hpassed]
  constructor
  · intro hverdict
    cases h with
    | tried record parse trial => exact ⟨record, o, parse, trial, hverdict⟩
    | malformed cause parse name verdict => cases verdict.symm.trans hverdict
  · rintro ⟨record, tried, hparse, htrial, hverdict⟩
    rw [h.unique (.tried record hparse htrial)]
    exact hverdict

end

namespace Ledger

section

variable {l : Ledger} {override : Option (List Datum)} {image : List Datum}

/-- Entries that have outcomes enter the ledger with them, in order. -/
theorem runEntries_outcomes (himage : override.or l.image = some image)
    {entries : List (Except Record.Error Record)}
    (h : ∀ entry ∈ entries, ∃ o, outcomeOf image entry = .ok o) : ∃ after os,
      l.runEntries override entries = (after, .ok os) ∧ after.results = l.results ++ os ∧
        List.Forall₂ (fun entry o => outcomeOf image entry = .ok o) entries os := by
  obtain ⟨os, hos⟩ := exists_map_ok (List.forall_mem_map.mpr h)
  have hsettled : entries.map (settled (override.or l.image)) = os.map .ok := by
    rw [himage]
    exact hos
  obtain ⟨hentered, hanswer⟩ := l.runEntries_spec override entries
  rw [hsettled, mapM_id_eq_ok_iff.mpr rfl] at hanswer
  rw [hsettled, leadingValues_map_ok] at hentered
  exact ⟨_, os, Prod.ext rfl hanswer, hentered.results, forall₂_of_map_eq hos⟩

/-- If the lines of a test file that count can be read, each of them enters the ledger with its
outcome, in order. -/
theorem runFile_outcomes (l : Ledger) (override : Option (List Datum))
    (himage : override.or l.image = some image) (hshow : AreShowable image) {t : Text}
    (hread : IsReadable t) : ∃ after os,
    l.runFile override t = (after, .ok os) ∧ after.results = l.results ++ os ∧
      List.Forall₂ (fun line o => IsOutcomeOf image line.1 line.2 o) (recordLines t) os := by
  obtain ⟨entries, hscan⟩ := exists_scan_iff.mpr hread
  have hentries := scan_eq_ok_iff.mp hscan
  have hexists : ∀ entry ∈ entries, ∃ o, outcomeOf image entry = .ok o := by
    intro entry hentry
    obtain ⟨line, -, hline⟩ := exists_of_mem_right hentries hentry
    exact exists_outcomeOf hshow hline
  obtain ⟨after, os, hafter, hresults, houtcomes⟩ := runEntries_outcomes himage hexists
  refine ⟨after, os, ?_, hresults, ?_⟩
  · unfold runFile
    rw [hscan]
    exact hafter
  · exact forall₂_comp hentries houtcomes fun line hline entry o hentry ho =>
      isOutcomeOf_of_outcomeOf (one_le_of_mem_recordLines hline) hentry ho

/-- Otherwise the file is refused as a whole, in both ways, and nothing of it enters a ledger. -/
theorem runFile_of_not_isReadable {t : Text} (h : ¬ IsReadable t) : ∃ o,
    Record.parseFile t = .error (.overflow o) ∧
      ∀ (l : Ledger) (override : Option (List Datum)),
        l.runFile override t = (l, .error (.overflow o)) := by
  obtain ⟨o, ho⟩ := exists_overflow_of_scan h
  refine ⟨o, ?_, fun l override => ?_⟩
  · unfold Record.parseFile
    rw [ho]
  · unfold runFile
    rw [ho]

end

end Ledger

section

variable {image : List Datum} {lines : List (Text × Nat)} {os os' : List Outcome}

/-- All outcomes have passed exactly if every line is a record and its trial has. -/
lemma all_passed_iff
    (h : List.Forall₂ (fun line o => IsOutcomeOf image line.1 line.2 o) lines os) :
    os.all Outcome.passed = true ↔ ∀ line ∈ lines, ∃ record o,
      Record.parse line.2 line.1 = .ok record ∧ (trial image record).2 = .ok o ∧
        o.verdict = .pass := by
  induction h with
  | nil => simp
  | cons houtcome _ ih =>
    rw [List.all_cons, Bool.and_eq_true, ih, List.forall_mem_cons, houtcome.passed_iff]

/-- Lines that are taken away take their outcomes away, and no others. -/
lemma zip_filter_of_outcomes
    (h : List.Forall₂ (fun line o => IsOutcomeOf image line.1 line.2 o) lines os)
    (stays : Text × Nat → Bool)
    (h' : List.Forall₂ (fun line o => IsOutcomeOf image line.1 line.2 o)
      (lines.filter stays) os') :
    (lines.filter stays).zip os' = (lines.zip os).filter fun entry => stays entry.1 := by
  induction h generalizing os' with
  | nil => rfl
  | @cons line o lines os houtcome _ ih =>
    rw [List.zip_cons_cons, List.filter_cons, List.filter_cons]
    cases hstays : stays line with
    | false =>
      rw [List.filter_cons, hstays] at h'
      exact ih h'
    | true =>
      rw [List.filter_cons, hstays] at h'
      cases h' with
      | cons houtcome' hrest =>
        obtain rfl := houtcome.unique houtcome'
        exact congrArg (_ :: ·) (ih hrest)

end

end Batch

end LittleMan
