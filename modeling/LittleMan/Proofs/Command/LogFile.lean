import LittleMan.Proofs.Command.Ending
import LittleMan.Proofs.Command.StoryLines

/-!
# The log file of a run

A run with a trace and a log file is told in the log, in the trace on the console, and in what is
printed. The report of the run is made from its story (`Command.exists_reportEnded_eq`), and so are
the log and the trace; hence the three tell the same (`Command.TellTheSame`), however the run ends.
`run_logged` says this of whole command lines, together with what is in the log file then.
-/

namespace LittleMan

namespace Command

open Log Machine

/-- A line of the log and a row of the trace show the same instruction: its address, its word, and
the word as assembly text. -/
def ShowSameInstruction (message row : Text) : Prop :=
  ∃ (r : Registers) (word : Int), IsAddress r.pc ∧ IsWord word ∧
    message = Text.zeroPadded 2 r.pc ++ ": " ++ Text.zeroPadded 3 word ++ " " ++ disassemble word ∧
    row = Machine.instructionRow r word

/-- The log, the rows of the trace and the report of a run tell the same. -/
structure TellTheSame (log : List Log.Line) (trace : List Text) (r : Report) : Prop where
  /-- The instructions that the machine tells are, one by one, those that the trace shows. -/
  instructions : List.Forall₂ ShowSameInstruction
    ((machineMessages log).filter Text.showsInstruction) (trace.filter Text.showsInstruction)
  /-- The values told are those that are printed. -/
  outputs : following "OUT " log = Text.lines r.stdout
  /-- The log tells a fault just if it is in the last row of the trace. -/
  stopped_iff : ∀ message, message ∈ following "Stopped on error: " log ↔
    trace.getLast? = some ("  ERROR: " ++ message)
  /-- It tells one just if the exit code is that of an error. -/
  exitError_iff : (∃ message, message ∈ following "Stopped on error: " log) ↔ r.exit = exitError
  /-- The console tells that fault last. -/
  failure : ∀ message ∈ following "Stopped on error: " log, ∃ kind : Fault.Kind,
    (Text.lines r.stderr).getLast? = some (kind.name ++ ": " ++ message)
  /-- The log tells a halt just if the exit code is that of success, and then after as many cycles
  as the trace shows instructions. -/
  halted : following "Program halted after " log =
    if r.exit = exitOk then
      [Text.decimal (trace.filter Text.showsInstruction).length ++ " cycles"]
    else []

/-! ### The report -/

variable {s : Story} {m : Machine}

/-- A trace without empty rows is shown row by row. -/
lemma closeRows_traceRows (h : ∀ row ∈ m.traceLines, row ≠ []) (closing : List Text) :
    Text.closeRows (traceRows m true ++ closing) = Text.closeRows (m.traceLines ++ closing) := by
  have htext : m.traceText = Text.joinRows m.traceLines := rfl
  rw [traceRows_eq, htext, Text.closeRows_append, Text.closeRows_append]
  cases hlines : m.traceLines with
  | nil => rfl
  | cons row rows =>
    rw [hlines] at h
    have hne : Text.joinRows (row :: rows) ≠ [] := by
      obtain ⟨rest, hrest⟩ := Text.prefix_intercalate ['\n'] row rows
      unfold Text.joinRows
      rw [← hrest]
      exact List.append_ne_nil_of_left_ne_nil (h row List.mem_cons_self) rest
    rw [if_pos ⟨rfl, hne⟩, Text.closeRows_joinRows (List.cons_ne_nil row rows)]

/-- The report of a run is made from its story. -/
lemma exists_reportEnded_eq (hown : ∀ f ∈ s.fault?, f.isOwn = true)
    (hrows : m.traceLines = s.rows) (houtputs : m.outputs = s.written) (log : List Log.Line)
    (budget : Nat) :
    ∃ back, (∀ l ∈ back, IsAside l) ∧ reportEnded log m budget true false s.outcome =
      ⟨s.exit, Text.closeRows (s.written.map (Text.zeroPadded 3)),
        Text.closeRows (s.rows ++ s.closing budget), log ++ m.logLines ++ back, none⟩ := by
  have hshown := closeRows_traceRows (m := m) (by rw [hrows]; exact s.ne_nil_of_mem_rows)
  have hprinted : s.written.map (Text.zeroPadded 3) ++ (if false then [m.memory.dump] else []) =
      s.written.map (Text.zeroPadded 3) := List.append_nil _
  rw [hrows] at hshown
  unfold Story.fault? at hown
  unfold reportEnded Story.outcome Story.exit Story.closing
  rw [houtputs]
  cases hending : s.ending with
  | halted =>
    refine ⟨[⟨.info, .command, "Halted after " ++ Text.decimal m.registers.cycles ++ " cycles"⟩],
      ?_, ?_⟩
    · rw [List.append_assoc]
      exact List.forall_mem_singleton.mpr (isAside_append (by decide) (by decide) _)
    · dsimp only
      rw [hprinted, ← hshown, List.append_nil]
  | exhausted pc =>
    refine ⟨[], List.forall_mem_nil _, ?_⟩
    dsimp only
    rw [hprinted, hshown, List.append_nil]
  | failed f =>
    refine ⟨[], List.forall_mem_nil _, ?_⟩
    rw [hending] at hown
    dsimp only
    rw [← hshown, List.append_nil, message_of_isOwn (hown f rfl)]

/-- The rows on the console are on one line each, if the fault quotes nothing that is not. -/
lemma isOneLine_console (hown : ∀ f ∈ s.fault?, f.isOwn = true)
    (h : ∀ f ∈ s.fault?, f.cause.QuotesOneLine) (budget : Nat) :
    ∀ row ∈ s.rows ++ s.closing budget, Text.IsOneLine row := by
  refine List.forall_mem_append.mpr
    ⟨s.isOneLine_rows fun f hf => Fault.isOneLine_message (h f hf), ?_⟩
  unfold Story.fault? at h hown
  unfold Story.closing
  cases hending : s.ending with
  | halted => exact List.forall_mem_nil _
  | exhausted pc =>
    exact List.forall_mem_singleton.mpr
      ((Text.IsOneLine.append (by decide) (Text.isOneLine_decimal _)).append (by decide))
  | failed f =>
    rw [hending] at h hown
    have hquotes : (Failure.machine f).QuotesOneLine := h f rfl
    dsimp only
    rw [← message_of_isOwn (hown f rfl)]
    exact List.forall_mem_singleton.mpr hquotes.isFailureLine.isOneLine

/-- What is made from one story tells the same, whatever else the log tells. -/
theorem tellTheSame_of_story {front back : List Log.Line} (hfront : ∀ l ∈ front, IsAside l)
    (hback : ∀ l ∈ back, IsAside l) {r : Report} {budget : Nat} (hexit : r.exit = s.exit)
    (hstdout : r.stdout = Text.closeRows (s.written.map (Text.zeroPadded 3)))
    (hstderr : Text.lines r.stderr = s.rows ++ s.closing budget) :
    TellTheSame (front ++ s.logLines 0 ++ back) s.rows r where
  instructions := by
    rw [machineMessages_append_asides hfront hback, s.filter_machineMessages, s.filter_rows,
      List.forall₂_map_left_iff, List.forall₂_map_right_iff, List.forall₂_same]
    exact fun d _ => ⟨d.registers, d.word, d.isAddress, d.isWord, rfl, rfl⟩
  outputs := by
    have hlines : ∀ row ∈ s.written.map (Text.zeroPadded 3), Text.IsOneLine row := by
      intro row hrow
      obtain ⟨value, -, rfl⟩ := List.mem_map.mp hrow
      exact Text.isOneLine_zeroPadded 3 value
    rw [following_append_asides hfront hback (by decide), s.following_out, hstdout,
      Text.lines_closeRows hlines]
  stopped_iff message := by
    rw [following_append_asides hfront hback (by decide), s.following_stopped, s.getLast?_rows]
  exitError_iff := by
    rw [following_append_asides hfront hback (by decide), s.following_stopped, hexit]
    unfold Story.fault? Story.exit
    cases s.ending with
    | halted => exact iff_of_false (by simp) (by decide)
    | exhausted pc => exact iff_of_false (by simp) (by dsimp only; decide)
    | failed f => exact iff_of_true ⟨f.message, List.mem_singleton.mpr rfl⟩ rfl
  failure message hmessage := by
    rw [following_append_asides hfront hback (by decide), s.following_stopped] at hmessage
    rw [hstderr]
    unfold Story.fault? at hmessage
    unfold Story.closing
    cases hending : s.ending with
    | halted => simp [hending] at hmessage
    | exhausted pc => simp [hending] at hmessage
    | failed f =>
      rw [hending] at hmessage
      obtain rfl := List.mem_singleton.mp hmessage
      exact ⟨f.kind, List.getLast?_concat⟩
  halted := by
    rw [following_append_asides hfront hback (by decide), s.following_halted, s.filter_rows, hexit,
      List.length_map]
    unfold Story.exit
    cases s.ending with
    | halted =>
      rw [Int.zero_add]
      rfl
    | exhausted pc => rfl
    | failed f => rfl

/-! ### Runs on the command line -/

/-- A run that gets as far as the machine reports how the machine ran. -/
lemma reportRun_of_prepared {read : Reader} {program inputs : Text} {words : List Int}
    {values : List Datum} {ready : Machine} (hprogram : (loadProgram read program).2 = .ok words)
    (hinputs : parseInputs inputs = .ok values)
    (hready : Prepared (words.map .integer) values ready) (n : Nat) (trace dump : Bool) :
    reportRun read program inputs n trace dump = reportEnded (loadProgram read program).1
      ((ready.withTracing trace).runFor n).1 n trace dump
      ((ready.withTracing trace).runFor n).2 := by
  obtain ⟨loaded, hload, hinject⟩ := hready
  rcases hloaded : loadProgram read program with ⟨log, failure | words'⟩
  · rw [hloaded] at hprogram
    cases hprogram
  · rw [hloaded] at hprogram
    obtain rfl := Except.ok.inj hprogram
    unfold reportRun
    rw [if_neg (by omega), hloaded]
    dsimp only
    rw [hload]
    dsimp only
    rw [hinputs]
    dsimp only
    rw [hinject, Int.toNat_natCast]
    rfl

/-- The log, the trace and the report of a run that gets as far as the machine tell the same, in
whatever lines of other parts the log opens. -/
theorem tellTheSame_reportRun {read : Reader} {program inputs : Text} {words : List Int}
    {values : List Datum} {ready : Machine} (hprogram : (loadProgram read program).2 = .ok words)
    (hinputs : parseInputs inputs = .ok values)
    (hready : Prepared (words.map .integer) values ready) {n : Nat} (hn : Text.isWritable n = true)
    (opening : List Log.Line) (hopening : ∀ l ∈ opening, IsAside l) :
    ∃ closing : List Text, closing.length ≤ 1 ∧
      Text.lines (reportRun read program inputs n true false).stderr =
        ((ready.withTracing true).runFor n).1.traceLines ++ closing ∧
      TellTheSame (opening ++ (reportRun read program inputs n true false).log)
        ((ready.withTracing true).runFor n).1.traceLines
        (reportRun read program inputs n true false) := by
  obtain ⟨htrace, hevents⟩ := hready.records
  obtain ⟨hregisters, houtput⟩ := hready.fresh
  obtain ⟨hrange, hunwatched⟩ := hready.inRange
  have hobjects : (ready.withTracing true).ObjectsOnOneLine := hready.objectsOnOneLine
  have hoperable : (ready.withTracing true).Operable := hrange.toOperable.congr rfl rfl rfl
  have running : (ready.withTracing true).registers.halted = false :=
    congrArg Registers.halted hregisters
  have hstart : (ready.withTracing true).registers.cycles = 0 :=
    congrArg Registers.cycles hregisters
  obtain ⟨s, houtcome, hown, hadds⟩ : ∃ s : Story,
      ((ready.withTracing true).runFor n).2 = s.outcome ∧ (∀ f ∈ s.fault?, f.isOwn = true) ∧
        Adds (ready.withTracing true) ((ready.withTracing true).runFor n).1
          (s.events (ready.withTracing true).registers.cycles) s.entries s.written := by
    refine exists_story rfl running hoperable hunwatched ?_ ?_
    · rw [hstart]
      exact Text.isWritable_of_isWord (by decide)
    · rw [hstart, Int.zero_add]
      exact hn
  have hquotes : ∀ f ∈ s.fault?, f.cause.QuotesOneLine := fun f hf =>
    hobjects.quotesOneLine_of_runFor (houtcome.trans (Story.outcome_of_fault? hf))
  rw [reportRun_of_prepared hprogram hinputs hready, houtcome]
  rw [hstart] at hadds
  generalize ((ready.withTracing true).runFor n).1 = after at hadds
  -- the machine had nothing on record but the loading of the image
  have hrows : after.traceLines = s.rows := by
    have hempty : (ready.withTracing true).trace = #[] := htrace
    unfold traceLines Story.rows
    rw [hadds.trace_eq, hempty, List.nil_append]
  have houtputs : after.outputs = s.written := by
    have hempty : (ready.withTracing true).outputs = [] := congrArg (·.values.toList) houtput
    rw [hadds.outputs_eq, hempty, List.nil_append]
  have hlog : after.logLines =
      (Event.loadedImage (words.map Datum.integer).length).logLine :: s.logLines 0 := by
    have hloaded : (ready.withTracing true).events = _ := hevents
    unfold logLines Story.logLines
    rw [hadds.events_eq, hloaded, List.map_append]
    rfl
  obtain ⟨back, hback, hreport⟩ :=
    exists_reportEnded_eq hown hrows houtputs (loadProgram read program).1 n
  have hlines : Text.lines (Text.closeRows (s.rows ++ s.closing n)) = s.rows ++ s.closing n :=
    Text.lines_closeRows (isOneLine_console hown hquotes n)
  rw [hreport, hrows]
  refine ⟨s.closing n, s.length_closing_le n, hlines, ?_⟩
  have hfront : ∀ l ∈ opening ++ (loadProgram read program).1 ++
      [(Event.loadedImage (words.map Datum.integer).length).logLine], IsAside l := by
    refine List.forall_mem_append.mpr ⟨List.forall_mem_append.mpr
      ⟨hopening, isAside_loadProgram read program⟩, List.forall_mem_singleton.mpr ?_⟩
    dsimp only [Event.logLine]
    rw [List.append_assoc]
    exact isAside_append (by decide) (by decide) _
  have hparts : opening ++ ((loadProgram read program).1 ++ after.logLines ++ back) =
      opening ++ (loadProgram read program).1 ++
        [(Event.loadedImage (words.map Datum.integer).length).logLine] ++ s.logLines 0 ++ back := by
    rw [hlog]
    simp only [List.append_assoc, List.cons_append, List.nil_append]
  dsimp only
  rw [hparts]
  exact tellTheSame_of_story hfront hback rfl rfl hlines

end Command

namespace Console

open Command Machine

/-- Log, trace and printed output tell the same story. On every command line that runs a program
with a trace and a log file, and gets as far as the machine with inputs that can be read and a
budget `n`, the console shows the trace of the machine and at most one row more, and nothing of the
log unless it is asked for that. The log, the trace and what is printed tell the same: the
instructions, the values written, the fault or the halt. This log is what is written at the end of
the log file, so it is all that is read there if the file is new. -/
theorem run_logged (time : Text) {tree opened : FileTree} {words : List Text} {i : Invocation}
    {program inputs : Text} {n : Nat} {image : List Int} {values : List Datum} {ready : Machine}
    (hwords : Invocation.read words = .accepted i) (hlogFile : i.logFile ≠ [])
    (hcommand : i.command = .run program inputs n true false)
    (hopened : keepLog time tree i i.command.opening = .ok opened)
    (hprogram : (loadProgram opened.read program).2 = .ok image)
    (hinputs : parseInputs inputs = .ok values)
    (hready : Prepared (image.map .integer) values ready) :
    ∃ after r closing, run time tree words = (after, .reported r) ∧
      tree.append i.logFile
        (Text.Utf8.encode (logRows time (logOpening i.logFile :: r.log))) = .ok after ∧
      ((∀ old, (tree.makeParents i.logFile).read (Path.normal i.logFile) ≠ .ok old) →
        FileTree.leadsOutside i.logFile = false →
          after.read (Path.normal i.logFile) =
            .ok (Text.Utf8.encode (logRows time (logOpening i.logFile :: r.log)))) ∧
      told r.log = [] ∧ closing.length ≤ 1 ∧
      Text.lines r.stderr = ((ready.withTracing true).runFor n).1.traceLines ++ closing ∧
      TellTheSame (logOpening i.logFile :: r.log)
        ((ready.withTracing true).runFor n).1.traceLines r := by
  have hreport : i.command.report opened.read =
      reportRun opened.read program inputs n true false := by
    rw [hcommand]
    rfl
  have hsave : (i.command.report opened.read).save = none := by
    rw [hcommand]
    exact save_report opened.read program (.run inputs n true false)
  obtain ⟨after, hafter, hrun⟩ := exists_run_eq_of_save_none hwords hopened hsave
  have hkeeps : keepsLog i = true := by
    unfold keepsLog
    simpa using hlogFile
  unfold keepLog logText at hafter
  rw [if_pos hkeeps] at hafter
  rw [hreport] at hafter hrun
  have hn : Text.isWritable n = true := Invocation.isWritable_budget hwords hcommand
  obtain ⟨closing, hclosing, hstderr, hsame⟩ :=
    tellTheSame_reportRun hprogram hinputs hready hn [logOpening i.logFile]
      (List.forall_mem_singleton.mpr (Log.isAside_append (by decide) (by decide) _))
  exact ⟨after, _, closing, hrun, hafter, fun hnew hinside =>
    FileTree.read_of_append hafter hnew hinside, told_reportRun _ _ _ _ _ _, hclosing, hstderr,
    hsame⟩

/-- A program for which too few inputs are given: the log tells a value and a fault, and so do the
console and the trace. -/
theorem run_logged_greedy : ∃ ready after r closing,
    Prepared ((padded [901, 902, 901, 0]).map .integer) [.integer 7] ready ∧
    run "12:00:00" greedyTree ["--log-file", "run.log", "run", "greedy.asm", "--input", "7",
      "--trace"] = (after, .reported r) ∧
    after.read "run.log" =
      .ok (Text.Utf8.encode (logRows "12:00:00" (logOpening "run.log" :: r.log))) ∧
    Text.lines r.stderr = ((ready.withTracing true).runFor 10000).1.traceLines ++ closing ∧
    TellTheSame (logOpening "run.log" :: r.log)
      ((ready.withTracing true).runFor 10000).1.traceLines r := by
  have hwords : Invocation.read ["--log-file", "run.log", "run", "greedy.asm", "--input", "7",
      "--trace"] = .accepted ⟨{}, "run.log", .run "greedy.asm" "7" 10000 true false⟩ := by
    decide +kernel
  obtain ⟨opened, hopened, hprogram⟩ : ∃ opened,
      keepLog "12:00:00" greedyTree ⟨{}, "run.log", .run "greedy.asm" "7" 10000 true false⟩
        (openingLines "greedy.asm") = .ok opened ∧
      (loadProgram opened.read "greedy.asm").2 = .ok (padded [901, 902, 901, 0]) :=
    ⟨_, rfl, by decide +kernel⟩
  obtain ⟨ready, hready⟩ : ∃ ready,
      Prepared ((padded [901, 902, 901, 0]).map .integer) [.integer 7] ready := by
    have hmemory : Memory.load {} ((padded [901, 902, 901, 0]).map .integer) = .ok _ :=
      Memory.load_integers {} (by decide) (by decide)
    exact ⟨_, _, (load_eq_ok_iff _ _ _).mpr ⟨_, hmemory, rfl⟩,
      (inject_eq_ok_iff _ _ _).mpr ⟨_, rfl, rfl⟩⟩
  have hnew : (greedyTree.makeParents "run.log").read (Path.normal "run.log") =
      .error (.missing "run.log") := by
    decide +kernel
  obtain ⟨after, r, closing, hrun, -, hread, -, -, hstderr, hsame⟩ :=
    run_logged "12:00:00" hwords (by decide) rfl hopened hprogram rfl hready
  have hlog := hread
    (fun old hold => by
      rw [hnew] at hold
      cases hold)
    (by decide)
  exact ⟨ready, after, r, closing, hready, hrun, hlog, hstderr, hsame⟩

end Console

end LittleMan
