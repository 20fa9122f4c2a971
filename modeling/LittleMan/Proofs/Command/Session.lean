import LittleMan.Command.Session
import LittleMan.Proofs.Command.CommandLine

/-!
# Files that commands touch

Only one command is told to write a file: an assembly that is asked for a file and not for a listing
on the console (`Command.output?`). It writes if the source can be read, decoded and assembled
(`Command.Assembles`), and then it writes the text that it would print; if something fails, no file
is written (`Console.asmCases_save`). All other commands leave the files as they are.

This holds in a session as well. A command line there does to the files what it does on a console of
its own (`Session.run_eq`), since the logs that earlier ones left open are closed before it starts.
So without logs the files change only at places that a command is told to write to
(`Session.lookup_files_runAll`).
-/

namespace LittleMan

namespace Command

/-- The file that a command is told to write. -/
def output? : Command → Option Text
  | asm _ output listing => if listing || output.isEmpty then none else some output
  | run _ _ _ _ _ | batch _ _ | disasm _ _ | lacking _ _ => none

lemma output?_asm (source output : Text) (listing : Bool) :
    (asm source output listing).output? =
      if listing || output.isEmpty then none else some output := rfl

/-- A command that is told to write a file assembles a source to it. -/
lemma output?_eq_some_iff {command : Command} {output : Text} :
    command.output? = some output ↔
      output ≠ [] ∧ ∃ source, command = .asm source output false := by
  constructor
  · intro h
    cases command with
    | run | batch | disasm | lacking => cases h
    | asm source output' listing =>
      rw [output?_asm] at h
      split at h
      · cases h
      · next hwritten =>
        obtain rfl := Option.some.inj h
        obtain ⟨rfl, houtput⟩ := Bool.or_eq_false_iff.mp (Bool.eq_false_iff.mpr hwritten)
        exact ⟨List.isEmpty_eq_false_iff.mp houtput, source, rfl⟩
  · rintro ⟨houtput, source, rfl⟩
    rw [output?_asm, List.isEmpty_eq_false_iff.mpr houtput]
    rfl

/-! ### Reports -/

section

variable {read : Reader} {source output : Text} {a : Assembly}

/-- A source is read, decoded and assembled without an error. -/
def Assembles (read : Reader) (source : Text) (a : Assembly) : Prop :=
  ∃ octets t image, read source = .ok octets ∧ Text.Utf8.decode octets = .ok t ∧
    assemble (.text (Text.unifyBreaks t)) = .ok image ∧ a = .ofSource (.text (Text.unifyBreaks t))

/-- What is written when a source is assembled to a file: the listing with a line break if the type
of the file is that of a listing, and else what is printed without a file. -/
def written (read : Reader) (source output : Text) (a : Assembly) : Text :=
  if Path.type output = Path.listingType then a.listing ++ ['\n']
  else (reportAsm read source [] false).stdout

/-- A file is assembled if reading, decoding and assembling succeed. -/
lemma assembles_iff : Assembles read source a ↔ ∃ log, assembleFile read source = (log, .ok a) := by
  constructor
  · rintro ⟨octets, t, image, hread, hdecode, hassemble, rfl⟩
    have htext := readText_eq_ok_iff.mpr ⟨octets, t, hread, hdecode, rfl⟩
    have hresult : (Assembly.ofSource (.text (Text.unifyBreaks t))).result = .ok image := hassemble
    refine ⟨(Assembly.ofSource (.text (Text.unifyBreaks t))).logLines, ?_⟩
    unfold assembleFile
    rw [htext]
    dsimp only
    rw [hresult]
  · rintro ⟨log, hfile⟩
    obtain ⟨_, htext, rfl, -, hassemble⟩ := readText_of_assembleFile hfile
    obtain ⟨octets, t, hread, hdecode, rfl⟩ := readText_eq_ok_iff.mp htext
    exact ⟨octets, t, _, hread, hdecode, hassemble, rfl⟩

/-- A source that assembles is reported with the text that belongs in the file. -/
lemma reportAsm_of_assembles (h : Assembles read source a) (houtput : output ≠ []) :
    (reportAsm read source output false).exit = exitOk ∧
      (reportAsm read source output false).save =
        some (output, written read source output a) := by
  obtain ⟨log, hfile⟩ := assembles_iff.mp h
  have hprinted : (reportAsm read source [] false).stdout = a.machineCode := by
    unfold reportAsm
    rw [hfile]
    rfl
  unfold written
  rw [hprinted]
  unfold reportAsm
  rw [hfile]
  dsimp only
  rw [if_neg (by decide), List.isEmpty_eq_false_iff.mpr houtput, if_neg (by decide)]
  exact ⟨rfl, rfl⟩

/-- A source that does not assemble is a failure, whatever is asked for. -/
lemma exists_reportAsm_eq_ofFailure (h : ∀ a, ¬ Assembles read source a) (output : Text)
    (listing : Bool) : ∃ log f, reportAsm read source output listing = .ofFailure log f := by
  unfold reportAsm
  split
  · next log f _ => exact ⟨log, f, rfl⟩
  · next log a hfile => exact absurd (assembles_iff.mpr ⟨log, hfile⟩) (h a)

/-- An assembly that is asked for a listing, or for no file, only prints. -/
lemma save_reportAsm {listing : Bool} (h : (listing || output.isEmpty) = true) :
    (reportAsm read source output listing).save = none := by
  unfold reportAsm
  split
  · rfl
  · cases listing with
    | true => rfl
    | false =>
      rw [Bool.false_or] at h
      rw [if_neg (by decide), if_pos h]

/-- A command that is not told to write a file writes none. -/
lemma save_of_output?_eq_none {command : Command} (h : command.output? = none) (read : Reader) :
    (command.report read).save = none := by
  cases command with
  | run program inputs budget trace dump =>
    exact save_report read program (.run inputs budget trace dump)
  | batch program tests => exact save_report read program (.batch tests)
  | disasm program all => exact save_report read program (.disasm all)
  | lacking lack program => exact save_report read program (.lacking lack)
  | asm source output listing =>
    rw [output?_asm] at h
    split at h
    · next hshown => exact save_reportAsm hshown
    · cases h

end

end Command

namespace Console

open Command

section

variable {tree : FileTree} {source output : Text}

/-- A content was written to a file, and nothing else changed. -/
structure IsWritten (tree : FileTree) (path content : Text) (after : FileTree) : Prop where
  write : tree.write path (Text.Utf8.encode content) = .ok after
  /-- Below the working directory the content can be seen. -/
  read : FileTree.leadsOutside path = false → after.read path = .ok (Text.Utf8.encode content)
  /-- The files at other places are as before. -/
  files : ∀ names, Place.ofPath path ≠ .below names →
    after.files.lookup names = tree.files.lookup names
  directories : after.directories = tree.directories

lemma isWritten_of_write {path content : Text} {after : FileTree}
    (h : tree.write path (Text.Utf8.encode content) = .ok after) :
    IsWritten tree path content after where
  write := h
  read := FileTree.read_of_write h
  files _ := FileTree.lookup_files_of_write h
  directories := by rw [FileTree.eq_put_of_write h, FileTree.directories_put]

/-- What an assembly to a file comes to: the files, and what is reported. -/
inductive AsmCases (tree : FileTree) (source output : Text) : FileTree × Report → Prop where
  /-- The source does not assemble, or the file cannot be written; no file changes. -/
  | failed (fails : (∀ a, ¬ Assembles tree.read source a) ∨
      ∀ octets after, tree.write output octets ≠ .ok after) (log : List Log.Line) (f : Failure) :
    AsmCases tree source output (tree, .ofFailure log f)
  /-- The source is assembled to the file. -/
  | saved (a : Assembly) (assembles : Assembles tree.read source a) (after : FileTree)
    (isWritten : IsWritten tree output (written tree.read source output a) after) (r : Report)
    (exit : r.exit = exitOk) : AsmCases tree source output (after, r)

/-- An assembly to a file comes to one of these. -/
lemma asmCases_save (houtput : output ≠ []) :
    AsmCases tree source output (save tree (reportAsm tree.read source output false)) := by
  by_cases hassembles : ∃ a, Assembles tree.read source a
  · obtain ⟨a, ha⟩ := hassembles
    obtain ⟨hexit, hsave⟩ := reportAsm_of_assembles ha houtput
    unfold save
    rw [hsave]
    dsimp only
    split
    · next after hwrite => exact .saved a ha after (isWritten_of_write hwrite) _ hexit
    · next e hwrite =>
      refine .failed (.inr fun octets after hother => ?_) _ (.file e)
      obtain ⟨after', hafter'⟩ := FileTree.exists_write hother
        (Text.Utf8.encode (written tree.read source output a))
      rw [hwrite] at hafter'
      cases hafter'
  · have hfails := not_exists.mp hassembles
    obtain ⟨log, f, hreport⟩ := exists_reportAsm_eq_ofFailure hfails output false
    rw [hreport]
    exact .failed (.inl hfails) log f

/-- An assembly to a file has success exactly if the source assembles and the file can be
written. -/
lemma AsmCases.exit_eq_exitOk_iff {done : FileTree × Report}
    (h : AsmCases tree source output done) :
    done.2.exit = exitOk ↔ (∃ a, Assembles tree.read source a) ∧
      ∃ octets after, tree.write output octets = .ok after := by
  cases h with
  | saved a ha after hwritten r hexit =>
    exact ⟨fun _ => ⟨⟨a, ha⟩, _, after, hwritten.write⟩, fun _ => hexit⟩
  | failed hfails log f =>
    constructor
    · exact nofun
    · rintro ⟨⟨a, ha⟩, octets, after, hwrite⟩
      rcases hfails with hfails | hfails
      · exact absurd ha (hfails a)
      · exact absurd hwrite (hfails octets after)

/-- With success the text is in the file and nothing else has changed. -/
lemma AsmCases.isWritten {done : FileTree × Report} (h : AsmCases tree source output done)
    (hexit : done.2.exit = exitOk) : ∃ a, Assembles tree.read source a ∧
      IsWritten tree output (written tree.read source output a) done.1 := by
  cases h with
  | saved a ha after hwritten => exact ⟨a, ha, hwritten⟩
  | failed => cases hexit

/-- Without success no file changes. -/
lemma AsmCases.eq_of_exit_ne {done : FileTree × Report} (h : AsmCases tree source output done)
    (hexit : done.2.exit ≠ exitOk) : done.1 = tree := by
  cases h with
  | saved a ha after hwritten r hok => exact absurd hok hexit
  | failed => rfl

/-- In any case the files at other places are as before. -/
lemma AsmCases.lookup_files {done : FileTree × Report} (h : AsmCases tree source output done)
    {names : List Text} (hne : Place.ofPath output ≠ .below names) :
    done.1.files.lookup names = tree.files.lookup names := by
  cases h with
  | saved a ha after hwritten => exact hwritten.files names hne
  | failed => rfl

end

end Console

namespace Session

open Command Console

/-! ### One command line -/

section

variable (time : Text) (s : Session) {i : Invocation} {words : List Text}

/-- Once the logging is set up, lines go to the log that is asked for and to no other one. -/
lemma tell_setUp (i : Invocation) (lines : List Log.Line) :
    tell time (setUpLines i ++ lines) s.tree (s.setUp i).logs = keepLog time s.tree i lines := by
  unfold setUpLines setUp keepLog
  dsimp only
  split
  · unfold tell logText
    rw [List.singleton_append]
    cases s.tree.append i.logFile (Text.Utf8.encode (logRows time (logOpening i.logFile :: lines)))
      <;> rfl
  · rfl

/-- An invocation is carried out as on a console of its own. -/
lemma carryOut_setUp (i : Invocation) :
    (s.setUp i).carryOut time i = Console.carryOut time s.tree i := by
  have htree : (s.setUp i).tree = s.tree := rfl
  unfold carryOut Console.carryOut
  rw [htree, tell_setUp]
  cases keepLog time s.tree i i.command.opening with
  | error e => rfl
  | ok opened =>
    have hlogged := tell_setUp time s i (i.command.report opened.read).log
    dsimp only
    generalize tell time _ s.tree (s.setUp i).logs = logged at hlogged ⊢
    subst hlogged
    rfl

/-- In a session a command line does the same to the files, and shows the same, as on a console of
its own. -/
theorem run_eq (words : List Text) :
    (s.run time words).1.tree = (Console.run time s.tree words).1 ∧
      (s.run time words).2 = (Console.run time s.tree words).2 := by
  unfold run Console.run
  cases Invocation.read words with
  | help | version | misuse => exact ⟨rfl, rfl⟩
  | accepted i =>
    dsimp only
    rw [carryOut_setUp]
    cases Console.carryOut time s.tree i with
    | error e => exact ⟨rfl, rfl⟩
    | ok done => exact ⟨rfl, rfl⟩

/-- Without a log a command makes its report on the files as they are. -/
lemma run_of_logFile_nil (h : Invocation.read words = .accepted i) (hlog : i.logFile = []) :
    (s.run time words).1.tree = (save s.tree (i.command.report s.tree.read)).1 ∧
      (s.run time words).2 = .reported (save s.tree (i.command.report s.tree.read)).2 := by
  obtain ⟨htree, hresponse⟩ := run_eq time s words
  rw [htree, hresponse, Console.run_of_logFile_nil h hlog]
  exact ⟨rfl, rfl⟩

/-- After a command without a log no log is open, whichever were open before. -/
lemma logs_run (h : Invocation.read words = .accepted i) (hlog : i.logFile = []) :
    (s.run time words).1.logs = [] := by
  have hready : (s.setUp i).logs = [] := by
    unfold setUp keepsLog
    rw [hlog]
    rfl
  unfold run
  rw [h]
  dsimp only
  split
  · rfl
  · exact hready

/-- Without a log a command that is not told to write a file leaves the files as they are. -/
lemma tree_run_of_output?_eq_none (h : Invocation.read words = .accepted i) (hlog : i.logFile = [])
    (hnone : i.command.output? = none) : (s.run time words).1.tree = s.tree := by
  rw [(run_of_logFile_nil time s h hlog).1, save_eq_of_save_none (save_of_output?_eq_none hnone _)]

/-- Without a log an assembly to a file comes to one of the cases. -/
lemma asmCases_run {source output : Text} (h : Invocation.read words = .accepted i)
    (hlog : i.logFile = []) (hcommand : i.command = .asm source output false)
    (houtput : output ≠ []) : ∃ r, (s.run time words).2 = .reported r ∧
      AsmCases s.tree source output ((s.run time words).1.tree, r) := by
  obtain ⟨htree, hresponse⟩ := run_of_logFile_nil time s h hlog
  refine ⟨_, hresponse, ?_⟩
  rw [htree, hcommand]
  exact asmCases_save houtput

/-- Without a log a command line keeps the files at places that it is not told to write to. -/
lemma lookup_files_run (hlog : ∀ i, Invocation.read words = .accepted i → i.logFile = [])
    {names : List Text} (hother : ∀ i output, Invocation.read words = .accepted i →
      i.command.output? = some output → Place.ofPath output ≠ .below names) :
    (s.run time words).1.tree.files.lookup names = s.tree.files.lookup names := by
  cases hread : Invocation.read words with
  | help | version | misuse =>
    unfold run
    rw [hread]
  | accepted i =>
    cases hasked : i.command.output? with
    | none => rw [tree_run_of_output?_eq_none time s hread (hlog i hread) hasked]
    | some output =>
      obtain ⟨houtput, source, hcommand⟩ := output?_eq_some_iff.mp hasked
      obtain ⟨r, -, hcases⟩ := asmCases_run time s hread (hlog i hread) hcommand houtput
      exact hcases.lookup_files (hother i output hread hasked)

end

/-! ### Command lines one after the other -/

/-- Without logs, command lines keep the files at places that none of them is told to write to,
whichever logs were open before. -/
theorem lookup_files_runAll {names : List Text} (lines : List (Text × List Text)) (s : Session)
    (hlog : ∀ line ∈ lines, ∀ i, Invocation.read line.2 = .accepted i → i.logFile = [])
    (hother : ∀ line ∈ lines, ∀ i output, Invocation.read line.2 = .accepted i →
      i.command.output? = some output → Place.ofPath output ≠ .below names) :
    (s.runAll lines).tree.files.lookup names = s.tree.files.lookup names := by
  induction lines generalizing s with
  | nil => rfl
  | cons line lines ih =>
    obtain ⟨hlog, hlogs⟩ := List.forall_mem_cons.mp hlog
    obtain ⟨hother, hothers⟩ := List.forall_mem_cons.mp hother
    have hrest := ih (s.run line.1 line.2).1 hlogs hothers
    exact hrest.trans (lookup_files_run line.1 s hlog hother)

/-- A command without a log touches no file that it is not told to write, and a failed one writes
none.

What a command asks to be written does not depend on how files are kept: nothing, unless a source is
assembled to a file, and then the text that is printed without a file, or the listing with a line
break for a file with the type of a listing; and nothing if the source does not assemble.

In a session, whatever was carried out before and whichever logs are open, a command without a log
closes the logs. It leaves the files as they are if it is not told to write one. An assembly to a
file has success exactly if the source assembles and the file can be written; with success that text
is in the file and the others are as before, and otherwise all files are.

So, over any number of command lines without logs, every file is kept that none of them is told to
write, the logs of earlier command lines among them. -/
theorem touches_only_output :
    (∀ (read : Reader) (command : Command),
      (command.output? = none → (command.report read).save = none) ∧
      ∀ source output, command = .asm source output false → output ≠ [] →
        (∀ a, Assembles read source a → (command.report read).exit = exitOk ∧
          (command.report read).save = some (output, written read source output a)) ∧
        ((∀ a, ¬ Assembles read source a) → (command.report read).exit = exitError ∧
          (command.report read).save = none)) ∧
    (∀ (time : Text) (s : Session) (words : List Text) (i : Invocation),
      Invocation.read words = .accepted i → i.logFile = [] →
        (s.run time words).1.logs = [] ∧
        (i.command.output? = none → (s.run time words).1.tree = s.tree) ∧
        ∀ source output, i.command = .asm source output false → output ≠ [] →
          ((s.run time words).2.exit = exitOk ↔ (∃ a, Assembles s.tree.read source a) ∧
            ∃ octets after, s.tree.write output octets = .ok after) ∧
          ((s.run time words).2.exit = exitOk → ∃ a, Assembles s.tree.read source a ∧
            IsWritten s.tree output (written s.tree.read source output a)
              (s.run time words).1.tree) ∧
          ((s.run time words).2.exit ≠ exitOk → (s.run time words).1.tree = s.tree)) ∧
    ∀ (s : Session) (lines : List (Text × List Text)),
      (∀ line ∈ lines, ∀ i, Invocation.read line.2 = .accepted i → i.logFile = []) →
        ∀ names, (∀ line ∈ lines, ∀ i output, Invocation.read line.2 = .accepted i →
          i.command.output? = some output → Place.ofPath output ≠ .below names) →
            (s.runAll lines).tree.files.lookup names = s.tree.files.lookup names := by
  refine ⟨?_, ?_, ?_⟩
  · intro read command
    refine ⟨fun hnone => save_of_output?_eq_none hnone read, ?_⟩
    rintro source output rfl houtput
    refine ⟨fun a ha => reportAsm_of_assembles ha houtput, ?_⟩
    intro hfails
    obtain ⟨log, f, hreport⟩ := exists_reportAsm_eq_ofFailure hfails output false
    change (reportAsm read source output false).exit = exitError ∧
      (reportAsm read source output false).save = none
    rw [hreport]
    exact ⟨rfl, rfl⟩
  · intro time s words i hwords hlog
    refine ⟨logs_run time s hwords hlog, tree_run_of_output?_eq_none time s hwords hlog, ?_⟩
    intro source output hcommand houtput
    obtain ⟨r, hresponse, hcases⟩ := asmCases_run time s hwords hlog hcommand houtput
    rw [hresponse]
    exact ⟨hcases.exit_eq_exitOk_iff, hcases.isWritten, hcases.eq_of_exit_ne⟩
  · intro s lines hlog names hother
    exact lookup_files_runAll lines s hlog hother

/-- A session in which a program was run with a log. -/
def loggedSession : Session :=
  (run [] { tree := echoTree } ["--log-file", "log.txt", "run", "echo.asm", "--input", "7"]).1

/-- An assembly without a log writes its listing and leaves the log of the run alone. -/
theorem touches_only_output_listing :
    loggedSession.logs = ["log.txt"] ∧
    (run [] loggedSession ["asm", "echo.asm", "-o", "echo.LST"]).1.logs = [] ∧
    (∃ a, Assembles loggedSession.tree.read "echo.asm" a ∧
      IsWritten loggedSession.tree "echo.LST"
        (written loggedSession.tree.read "echo.asm" "echo.LST" a)
        (run [] loggedSession ["asm", "echo.asm", "-o", "echo.LST"]).1.tree) ∧
    (loggedSession.tree.files.lookup [("log.txt" : Text)]).isSome = true ∧
    (runAll loggedSession [([], ["asm", "echo.asm", "-o", "echo.LST"])]).tree.files.lookup
        [("log.txt" : Text)] =
      loggedSession.tree.files.lookup [("log.txt" : Text)] := by
  obtain ⟨-, hline, hlines⟩ := touches_only_output
  have hread : Invocation.read ["asm", "echo.asm", "-o", "echo.LST"] =
      .accepted ⟨{}, [], .asm "echo.asm" "echo.LST" false⟩ := by decide +kernel
  have hexit : (run [] loggedSession ["asm", "echo.asm", "-o", "echo.LST"]).2.exit = exitOk := by
    decide +kernel
  obtain ⟨hlogs, -, hasm⟩ := hline [] loggedSession _ _ hread rfl
  refine ⟨by decide +kernel, hlogs, (hasm _ _ rfl (by decide)).2.1 hexit, by decide +kernel,
    hlines _ _ ?_ _ ?_⟩
  · intro line hmem i hi
    obtain rfl := List.mem_singleton.mp hmem
    obtain rfl := Meaning.accepted.inj (hread.symm.trans hi)
    rfl
  · intro line hmem i output hi hasked
    obtain rfl := List.mem_singleton.mp hmem
    obtain rfl := Meaning.accepted.inj (hread.symm.trans hi)
    obtain rfl := Option.some.inj hasked
    decide

end Session

end LittleMan
