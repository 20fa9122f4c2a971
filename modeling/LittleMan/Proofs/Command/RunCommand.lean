import LittleMan.Proofs.Batch.Verdict
import LittleMan.Proofs.Command.TestFile
import LittleMan.Proofs.Command.Words
import LittleMan.Proofs.Machine.Range
import LittleMan.Proofs.Machine.Tracing
import LittleMan.Proofs.Text.Signed

/-!
# Running a program file

The command that runs a program file takes the program through the same three stages as a trial
does, and its report says how they ended, wherever that was (`exists_reportRun_eq`). Only the trace
sets the two apart, and a program comes to the same with and without one. So the report shows the
outcome of a trial of the program on which nothing is expected (`ShowsOutcome`): the values are
printed as rows of three digits, since a machine that was new writes words only
(`InRange.runProgram`), the exit code tells the verdict, and the console tells the trace and then
why the program did not halt. There is such an outcome in any case, since what is read from files
and from the command line can be shown (`isShowable_of_parseInputs`).

`run_shows_outcome` says so for whole command lines that ask for a run. A budget whose numeral has
too many digits to be read asks for none (`Invocation.read_run`): the usage is shown, whatever a
trial with this budget comes to (`exists_run_refused`).
-/

namespace LittleMan

namespace Machine

/-- Whatever becomes of a program, the machine stays in range. -/
lemma InRange.runProgram {m : Machine} (h : m.InRange) (image inputs : List Datum) (budget : Int) :
    (m.runProgram image inputs budget).1.InRange := by
  unfold Machine.runProgram
  split
  · exact h
  · next loaded hload =>
    have hloaded : (m.handle (.load image)).1.InRange := h.handle rfl
    change (m.orRefuse (m.load image)).1.InRange at hloaded
    rw [hload] at hloaded
    split
    · exact hloaded
    · next ready hinject =>
      have hready : (loaded.handle (.inject inputs)).1.InRange := InRange.handle hloaded rfl
      change (loaded.orRefuse (loaded.inject inputs)).1.InRange at hready
      rw [hinject] at hready
      exact run_induction (fun _ h => h.step) (fun _ _ h => h.congr rfl rfl rfl rfl) budget hready

end Machine

namespace Batch

/-- The outcome of a program that left the machine `m` when it ended. -/
def Outcome.ofEnded (record : Record) (m : Machine) : Except Fault Machine.Run → Outcome
  | .ok r => endedOutcome record m r
  | .error f => failedOutcome record m f

/-- A trial leaves the machine that its program leaves. -/
lemma trial_fst (image : List Datum) (record : Record) : (trial image record).1 =
    (Machine.runProgram {} image record.inputs
      (record.budget.getD Machine.defaultBudget)).1 := by
  unfold trial
  rcases Machine.runProgram _ _ _ _ with ⟨after, (f | budget | o) | r⟩ <;> rfl

/-- If a trial has an outcome, it is that of its program, and a failure of the program is one of the
machine's own. -/
lemma eq_ofEnded {image : List Datum} {record : Record} {after : Machine}
    {ended : Except Fault Machine.Run} {o : Outcome}
    (h : Machine.runProgram {} image record.inputs (record.budget.getD Machine.defaultBudget) =
      (after, ended.mapError .fault))
    (ho : (trial image record).2 = .ok o) :
    o = .ofEnded record after ended ∧ ∀ f, ended = .error f → f.isOwn = true := by
  cases ended with
  | ok r => exact ⟨eq_endedOutcome h ho, nofun⟩
  | error f =>
    obtain ⟨hown, rfl⟩ := eq_failedOutcome h ho
    refine ⟨rfl, fun f' hf' => ?_⟩
    obtain rfl := Except.error.inj hf'
    exact hown

end Batch

namespace Command

open Batch Machine

/-- The row that the console shows behind the trace, by what came of the program. -/
inductive Closes (o : Outcome) (budget : Nat) : List Text → Prop where
  /-- A program that halts needs none. -/
  | halted (verdict : o.verdict = .pass) : Closes o budget []
  /-- The budget is told. -/
  | exceeded (verdict : o.verdict = .budgetExceeded) : Closes o budget
      ["Cycle budget exceeded: no HLT within " ++ Text.decimal budget ++ " cycles"]
  /-- The failure is told, by its kind and by its full text. -/
  | failed (kind : Text) (verdict : o.verdict = .executionError)
      (errorKind : o.errorKind = some kind) : Closes o budget [kind ++ ": " ++ o.message]

/-- A report shows an outcome, that of a trial which left the machine `tried`. The machine `traced`
went through the same with a trace, if one is asked for. -/
structure ShowsOutcome (r : Report) (o : Outcome) (tried traced : Machine) (budget : Nat)
    (trace dump : Bool) : Prop where
  /-- The values written are printed, and behind them the memory if it is asked for and there was no
  error. -/
  stdout : r.stdout = Text.closeRows (o.outputs.map (Text.zeroPadded 3) ++
    if dump = true ∧ o.verdict ≠ .executionError then [tried.memory.dump] else [])
  /-- Each value is printed with three digits. -/
  digits : ∀ row ∈ o.outputs.map (Text.zeroPadded 3),
    row.length = 3 ∧ ∀ c ∈ row, c.isDigit = true
  exitOk_iff : r.exit = exitOk ↔ o.verdict = .pass
  exitTimeout_iff : r.exit = exitTimeout ↔ o.verdict = .budgetExceeded
  exitError_iff : r.exit = exitError ↔ o.verdict = .executionError
  /-- The trace is shown if it is asked for and not empty, and then the closing row. -/
  stderr : ∃ closing, Closes o budget closing ∧ r.stderr = Text.closeRows
    ((if trace = true ∧ traced.traceText ≠ [] then [traced.traceText] else []) ++ closing)

section

variable {read : Reader} {program inputs : Text} {words : List Int} {values : List Datum}

/-- A program that was not taken is reported like one that failed before it wrote anything. -/
lemma ofFailure_eq_reportEnded {m : Machine} (houtput : m.output = {}) (htrace : m.trace = #[])
    (log : List Log.Line) (f : Fault) (n : Nat) (trace dump : Bool) :
    Report.ofFailure (log ++ m.logLines) (.machine f) =
      reportEnded log (m.withTracing trace) n trace dump (.error f) := by
  have hprinted : (m.withTracing trace).outputs = [] := by
    change m.output.values.toList = []
    rw [houtput]
  have hshown : traceRows (m.withTracing trace) trace = [] := by
    have htext : (m.withTracing trace).traceText = [] := by
      change Text.joinRows (m.trace.toList.map TraceEntry.row) = []
      rw [htrace]
      rfl
    unfold traceRows
    rw [htext, if_neg (by simp)]
  unfold reportEnded
  dsimp only
  rw [hprinted, hshown]
  simp [Report.ofFailure, Text.closeRows, logLines, withTracing]

/-- A run reports how its program ended, be it that the program was not taken. -/
theorem exists_reportRun_eq (hprogram : (loadProgram read program).2 = .ok words)
    (hinputs : parseInputs inputs = .ok values) (n : Nat) (trace dump : Bool) :
    ∃ log after ended,
      (withTracing {} trace).runProgram (words.map .integer) values n =
        (after, ended.mapError .fault) ∧
      reportRun read program inputs n trace dump = reportEnded log after n trace dump ended := by
  have hbudget : ¬ (n : Int) < 0 := by omega
  rcases hload : loadProgram read program with ⟨log, failure | words'⟩
  · rw [hload] at hprogram
    cases hprogram
  · rw [hload] at hprogram
    obtain rfl := Except.ok.inj hprogram
    unfold reportRun runProgram
    rw [if_neg hbudget, hload, load_withTracing]
    dsimp only
    cases hloaded : load {} (words'.map .integer) with
    | error f =>
      have hlog : log ++ ({} : Machine).logLines = log := List.append_nil log
      refine ⟨log, _, .error f, rfl, ?_⟩
      rw [← ofFailure_eq_reportEnded rfl rfl log f n trace dump, hlog]
    | ok loaded =>
      obtain ⟨memory, -, rfl⟩ := (load_eq_ok_iff _ loaded _).mp hloaded
      dsimp only [Except.map]
      rw [hinputs, inject_withTracing]
      dsimp only
      cases Machine.inject _ values with
      | error f =>
        refine ⟨log, _, .error f, rfl, ?_⟩
        exact ofFailure_eq_reportEnded rfl rfl log f n trace dump
      | ok ready =>
        dsimp only [Except.map]
        rw [run_ofNat, Int.toNat_natCast]
        exact ⟨log, _, _, rfl, rfl⟩

/-- The trace is shown if it is asked for and not empty. -/
lemma traceRows_eq (m : Machine) (trace : Bool) :
    traceRows m trace = if trace = true ∧ m.traceText ≠ [] then [m.traceText] else [] := by
  unfold traceRows
  cases trace <;> simp

/-- A failure that is one of the machine's own is told by its kind. -/
lemma message_of_isOwn {f : Fault} (h : f.isOwn = true) :
    (Failure.machine f).message = f.kind.name ++ ": " ++ f.message := by
  dsimp only [Failure.message]
  rw [if_pos h, Fault.reported, if_pos (Bool.and_eq_true_iff.mp h).2]

/-- The report of a program that was run shows the outcome of a trial on which nothing is
expected. -/
theorem showsOutcome_reportEnded {m traced : Machine} (hwords : ∀ value ∈ m.outputs, IsWord value)
    (hsame : SameButTrace traced m) (name : Text) (values : List Datum) (log : List Log.Line)
    (n : Nat) (trace dump : Bool) {ended : Except Fault Machine.Run}
    (hown : ∀ f, ended = .error f → f.isOwn = true) :
    ShowsOutcome (reportEnded log traced n trace dump ended)
      (.ofEnded ⟨name, values, none, some n⟩ m ended) m traced n trace dump := by
  have hdigits : ∀ row ∈ m.outputs.map (Text.zeroPadded 3),
      row.length = 3 ∧ ∀ c ∈ row, c.isDigit = true := by
    intro row hrow
    obtain ⟨value, hvalue, rfl⟩ := List.mem_map.mp hrow
    exact MachineCode.row_of_isWord (hwords value hvalue)
  have hprinted : m.outputs.map (Text.zeroPadded 3) ++
      (if dump = true ∧ Verdict.executionError ≠ .executionError then [m.memory.dump] else []) =
        m.outputs.map (Text.zeroPadded 3) := by
    rw [if_neg fun h => h.2 rfl, List.append_nil]
  have hgrid : ∀ v : Verdict, v ≠ .executionError →
      (if dump = true ∧ v ≠ .executionError then [m.memory.dump] else []) =
        if dump = true then [m.memory.dump] else [] :=
    fun v hv => if_congr (and_iff_left hv) rfl rfl
  unfold reportEnded
  rw [traceRows_eq, hsame.outputs, hsame.memory]
  rcases ended with f | ⟨stop, executed⟩
  · dsimp only
    rw [message_of_isOwn (hown f rfl)]
    exact {
      stdout := congrArg Text.closeRows hprinted.symm
      digits := hdigits
      exitOk_iff := iff_of_false nofun nofun
      exitTimeout_iff := iff_of_false nofun nofun
      exitError_iff := iff_of_true rfl rfl
      stderr := ⟨_, .failed _ rfl rfl, rfl⟩ }
  · cases stop with
    | timeout => exact {
        stdout := congrArg (fun grid => Text.closeRows (_ ++ grid))
          (hgrid .budgetExceeded (by decide)).symm
        digits := hdigits
        exitOk_iff := iff_of_false nofun nofun
        exitTimeout_iff := iff_of_true rfl rfl
        exitError_iff := iff_of_false nofun nofun
        stderr := ⟨_, .exceeded rfl, rfl⟩ }
    | halt => exact {
        stdout := congrArg (fun grid => Text.closeRows (_ ++ grid)) (hgrid .pass (by decide)).symm
        digits := hdigits
        exitOk_iff := iff_of_true rfl rfl
        exitTimeout_iff := iff_of_false nofun nofun
        exitError_iff := iff_of_false nofun nofun
        stderr := ⟨_, .halted rfl, congrArg Text.closeRows (List.append_nil _).symm⟩ }

/-- The outcome of a trial on what the command line gives can show all of its numbers. -/
lemma isShowable_of_parseInputs (hprogram : (loadProgram read program).2 = .ok words)
    (hinputs : parseInputs inputs = .ok values) {n : Nat} (hn : Text.isWritable n = true)
    (name : Text) : IsShowable (words.map .integer) ⟨name, values, none, some n⟩ where
  image := areShowable_of_loadProgram hprogram
  inputs := by
    intro d hd
    obtain ⟨token, -, hread⟩ := exists_of_mem_right (mapM_eq_ok_iff.mp hinputs) hd
    split at hread
    · next value hvalue =>
      obtain rfl := Except.ok.inj hread
      exact Text.isWritable_of_numeral? hvalue
    · cases hread
    · cases hread
  expected := nofun
  budget m hm := by
    obtain rfl := Option.some.inj hm
    exact hn

/-- The report of a run shows the outcome of a trial of the same program on which nothing is
expected. -/
theorem exists_showsOutcome (hprogram : (loadProgram read program).2 = .ok words)
    (hinputs : parseInputs inputs = .ok values) {n : Nat} (hn : Text.isWritable n = true)
    (trace dump : Bool) (name : Text) :
    ∃ o, (trial (words.map .integer) ⟨name, values, none, some n⟩).2 = .ok o ∧
      ShowsOutcome (reportRun read program inputs n trace dump) o
        (trial (words.map .integer) ⟨name, values, none, some n⟩).1
        ((withTracing {} trace).runProgram (words.map .integer) values n).1 n trace dump := by
  obtain ⟨log, traced, ended, hrun, hreport⟩ := exists_reportRun_eq hprogram hinputs n trace dump
  obtain ⟨hsame, hended⟩ := runProgram_withTracing {} trace false (words.map .integer) values n
  rw [hrun] at hsame hended ⊢
  have htried : Machine.runProgram {} (words.map .integer) values n =
      ((Machine.runProgram {} (words.map .integer) values n).1, ended.mapError .fault) :=
    Prod.ext rfl hended.symm
  have hwords := (inRange_new.runProgram (words.map .integer) values n).outputs
  obtain ⟨o, ho⟩ := exists_outcome (isShowable_of_parseInputs hprogram hinputs hn name) rfl
  obtain ⟨rfl, hown⟩ := eq_ofEnded htried ho
  refine ⟨_, ho, ?_⟩
  rw [trial_fst, hreport]
  exact showsOutcome_reportEnded hwords hsame name values log n trace dump hown

end

end Command

/-! ### Budgets on the command line -/

/-- The words behind the name of the command ask for a run if the budget can be read. -/
lemma Command.read_run {program inputs written : Text} (hprogram : IsPlain program)
    (hinputs : IsPlain inputs) (hwritten : IsPlain written) :
    read "run" [program, "--input", inputs, "--max-cycles", written] =
      match Text.integer? written with
      | none => .misuse
      | some n => .accepted (.run program inputs n false false) := by
  obtain ⟨form, hform, hpositions, hinput, hbudget, hmake⟩ : ∃ form : Form,
      forms.lookup ("run" : Text) = some form ∧ form.positions = 1 ∧
      Arguments.shape (helpSwitches ++ form.switches) "--input" =
        .bare ⟨"--input", .input, true⟩ ∧
      Arguments.shape (helpSwitches ++ form.switches) "--max-cycles" =
        .bare ⟨"--max-cycles", .budget, true⟩ ∧
      ∀ n : Int, form.make [some program] { input := some inputs, budget := some n } =
        .accepted (.run program inputs n false false) :=
    ⟨_, rfl, rfl, rfl, rfl, fun _ => rfl⟩
  have hplain := hprogram _ form hform
  have hplain' := hinputs _ form hform
  have hplain'' := hwritten _ form hform
  unfold read
  rw [hform]
  dsimp only
  rw [Arguments.hasAmbiguity_cons_of_plain hplain,
    Arguments.hasAmbiguity_cons_of_bare (by decide) hinput,
    Arguments.hasAmbiguity_cons_of_plain hplain',
    Arguments.hasAmbiguity_cons_of_bare (by decide) hbudget,
    Arguments.hasAmbiguity_cons_of_plain hplain'', hpositions, Arguments.items_position hplain,
    Arguments.items_value hinput rfl hplain', Arguments.items_value hbudget rfl hplain'']
  have hset : Options.set { input := some inputs } .budget (some written) =
      (Text.integer? written).map fun n => { input := some inputs, budget := some n } := rfl
  change gather form.make [some program] { input := some inputs } false
    [.set .budget (some written)] = _
  have hkey : Key.budget ≠ .help := nofun
  rw [gather_set form.make hkey, hset]
  cases Text.integer? written with
  | none => rfl
  | some n => exact hmake n

/-- A command line with a budget asks for a run if the budget can be read. -/
lemma Invocation.read_run {program inputs written : Text} (hprogram : NamesFile program)
    (hinputs : NamesFile inputs) (hwritten : NamesFile written) :
    read ["run", program, "--input", inputs, "--max-cycles", written] =
      match Text.integer? written with
      | none => .misuse
      | some n => .accepted ⟨{}, [], .run program inputs n false false⟩ := by
  have hclear : Arguments.hasAmbiguity switches
      [program, "--input", inputs, "--max-cycles", written] = false := by
    have hinput : Arguments.shape switches "--input" ≠ .ambiguous := nofun
    have hbudget : Arguments.shape switches "--max-cycles" ≠ .ambiguous := nofun
    rw [hprogram.hasAmbiguity_cons, Arguments.hasAmbiguity_cons (by decide) hinput,
      hinputs.hasAmbiguity_cons, Arguments.hasAmbiguity_cons (by decide) hbudget,
      hwritten.hasAmbiguity_cons]
    rfl
  rw [read_command (by decide), hclear, if_neg (by decide),
    Command.read_run hprogram.isPlain hinputs.isPlain hwritten.isPlain]
  cases Text.integer? written <;> rfl

namespace Console

open Batch Command Machine

/-- The command that runs a program file agrees with a trial. On every command line for a run, with
a program file that gives words, inputs that can be read and a budget `n`, the report shows the
outcome of a trial of these words on these inputs with this budget and nothing expected: however
the program ends, the values that it has written are printed, the exit code tells the verdict, and
the console tells the trace and then the failure or the budget. If a log is kept, it can be
opened. -/
theorem run_shows_outcome (time : Text) {tree opened : FileTree} {words : List Text}
    {i : Invocation} {program inputs : Text} {n : Nat} {trace dump : Bool} {image : List Int}
    {values : List Datum} (name : Text) (hwords : Invocation.read words = .accepted i)
    (hcommand : i.command = .run program inputs n trace dump)
    (hopened : keepLog time tree i i.command.opening = .ok opened)
    (hprogram : (loadProgram opened.read program).2 = .ok image)
    (hinputs : parseInputs inputs = .ok values) :
    ∃ r o, (run time tree words).2 = .reported r ∧
      (trial (image.map .integer) ⟨name, values, none, some n⟩).2 = .ok o ∧
      ShowsOutcome r o (trial (image.map .integer) ⟨name, values, none, some n⟩).1
        ((withTracing {} trace).runProgram (image.map .integer) values n).1 n trace dump := by
  have hreport : i.command.report opened.read =
      reportRun opened.read program inputs n trace dump := by
    rw [hcommand]
    rfl
  have hsave : (i.command.report opened.read).save = none := by
    rw [hcommand]
    exact save_report opened.read program (.run inputs n trace dump)
  have hn : Text.isWritable n = true := Invocation.isWritable_budget hwords hcommand
  obtain ⟨o, htrial, hshows⟩ := exists_showsOutcome hprogram hinputs hn trace dump name
  refine ⟨_, o, run_of_save_none hwords hopened hsave, htrial, ?_⟩
  rw [hreport]
  exact hshows

/-- A directory with a source that shows its first input and then takes another one. -/
def greedyTree : FileTree :=
  { files := [(["greedy.asm"], Text.Utf8.encode "IN\nOUT\nIN\nHLT\n")] }

/-- A program for which too few inputs are given fails on the command line as it does in a trial. -/
theorem run_shows_outcome_greedy : ∃ r o,
    (run [] greedyTree ["run", "greedy.asm", "--input", "7", "--max-cycles", "9", "--trace"]).2 =
      .reported r ∧
    (trial ((padded [901, 902, 901, 0]).map .integer) ⟨"greedy", [.integer 7], none, some 9⟩).2 =
      .ok o ∧
    ShowsOutcome r o
      (trial ((padded [901, 902, 901, 0]).map .integer) ⟨"greedy", [.integer 7], none, some 9⟩).1
      ((withTracing {} true).runProgram ((padded [901, 902, 901, 0]).map .integer) [.integer 7] 9).1
      9 true false := by
  have hwords : Invocation.read
      ["run", "greedy.asm", "--input", "7", "--max-cycles", "9", "--trace"] =
        .accepted ⟨{}, [], .run "greedy.asm" "7" 9 true false⟩ := by
    decide +kernel
  have hprogram : (loadProgram greedyTree.read "greedy.asm").2 =
      .ok (padded [901, 902, 901, 0]) := by
    decide +kernel
  exact run_shows_outcome [] "greedy" hwords rfl rfl hprogram rfl

/-- A numeral of nine with so many zeros in front that it is not read. -/
def longNine : Text :=
  List.replicate Text.digitLimit '0' ++ ['9']

/-- A program that passes in a trial with the budget nine is not run when the command line gives
this budget in so long a numeral: the usage is shown, and the exit code is none of those of a
run. -/
theorem exists_run_refused :
    Text.IsNumeralOf 9 longNine ∧
    (loadProgram echoTree.read "echo.asm").2 = .ok (padded [901, 902, 0]) ∧
    parseInputs "7" = .ok [.integer 7] ∧
    (∃ o, (trial ((padded [901, 902, 0]).map .integer) ⟨"echo", [.integer 7], none, some 9⟩).2 =
      .ok o ∧ o.verdict = .pass) ∧
    ∀ time, run time echoTree ["run", "echo.asm", "--input", "7", "--max-cycles", longNine] =
      (echoTree, .misuse) := by
  have hnumeral : Text.IsNumeralOf 9 longNine := ⟨Text.digitLimit, rfl⟩
  have hlong : ¬ longNine.length ≤ Text.digitLimit := by
    simp [longNine]
  have hhead : longNine.head? ≠ some '-' := fun h =>
    absurd (hnumeral.isDigit '-' (List.mem_of_mem_head? h)) (by decide)
  have hread : Invocation.read ["run", "echo.asm", "--input", "7", "--max-cycles", longNine] =
      .misuse := by
    rw [Invocation.read_run (Invocation.namesFile_of_head?_ne (by decide))
      (Invocation.namesFile_of_head?_ne (by decide)) (Invocation.namesFile_of_head?_ne hhead),
      Text.integer?_of_isNumeralOf hnumeral, if_neg hlong]
  have htrial : (trial ((padded [901, 902, 0]).map .integer)
      ⟨"echo", [.integer 7], none, some 9⟩).2.map Outcome.verdict = .ok .pass := by
    decide +kernel
  refine ⟨hnumeral, by decide +kernel, rfl, ?_, fun time => ?_⟩
  · exact map_eq_ok_iff.mp htrial
  · unfold run
    rw [hread]

end Console

end LittleMan
