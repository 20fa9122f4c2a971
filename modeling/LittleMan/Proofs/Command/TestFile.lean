import LittleMan.Proofs.Batch.TestFile
import LittleMan.Proofs.Command.CommandLine

/-!
# Test files on the command line

The command that tries a program on a test file takes the file in the tolerant way. If every line
that counts can be read, its exit code tells whether each of them is a record and has passed
(`exit_reportBatch`). A file is read as text, which leaves the lines what they were
(`recordLines_unifyBreaks`), and a program file gives words, which any outcome can show
(`areShowable_of_loadProgram`). The command writes no file of its own, so on a whole command line
only the log could come in between: if it can be opened it can be written, and then the command
makes its report (`run_of_save_none`).

What a test file comes to is put together in `testFile_line_by_line`.
-/

namespace LittleMan

namespace Batch

/-- The lines that count are the same when the breaks are brought to one kind. -/
lemma recordLines_unifyBreaks (t : Text) : recordLines (Text.unifyBreaks t) = recordLines t := by
  unfold recordLines
  rw [Text.lines_unifyBreaks]

/-- So the same texts can be read. -/
lemma isReadable_unifyBreaks (t : Text) : IsReadable (Text.unifyBreaks t) ↔ IsReadable t := by
  unfold IsReadable
  rw [recordLines_unifyBreaks]

/-- If a text can be read, it can be with any lines made blank. -/
lemma IsReadable.of_isBlanked {blanked : Nat → Bool} {t t' : Text} (h : IsReadable t)
    (hblanked : IsBlanked blanked t t') : IsReadable t' := by
  intro line hline
  rw [recordLines_of_isBlanked hblanked] at hline
  exact h line (List.mem_filter.mp hline).1

/-- Every line of a test file that counts is a record, and its trial on the image has passed. -/
def Passes (image : List Datum) (t : Text) : Prop :=
  ∀ line ∈ recordLines t, ∃ record o, Record.parse line.2 line.1 = .ok record ∧
    (trial image record).2 = .ok o ∧ o.verdict = .pass

end Batch

namespace Command

open Batch

section

variable {read : Reader} {program tests t : Text} {words : List Int} {octets : List UInt8}

/-- What a program file gives can be shown. -/
lemma areShowable_of_loadProgram (h : (loadProgram read program).2 = .ok words) :
    Machine.AreShowable (words.map .integer) := by
  intro d hd
  obtain ⟨w, hw, rfl⟩ := List.mem_map.mp hd
  exact Text.isWritable_of_isWord (isWord_of_loadProgram h w hw)

/-- The exit code of a batch tells whether the test file has passed. -/
theorem exit_reportBatch (hprogram : (loadProgram read program).2 = .ok words)
    (htests : read tests = .ok octets) (htext : Text.Utf8.decode octets = .ok t)
    (hreadable : IsReadable t) :
    ((reportBatch read program tests).exit = exitOk ↔ Passes (words.map .integer) t) ∧
      ((reportBatch read program tests).exit = exitOk ∨
        (reportBatch read program tests).exit = exitError) := by
  let ledger : Ledger := { image := some (words.map .integer) }
  obtain ⟨after, os, hafter, hresults, houtcomes⟩ :=
    Ledger.runFile_outcomes ledger none rfl (areShowable_of_loadProgram hprogram)
      ((isReadable_unifyBreaks t).mpr hreadable)
  have hpassed : after.allPassed = true ↔ Passes (words.map .integer) t := by
    unfold Ledger.allPassed
    rw [hresults, List.nil_append, all_passed_iff houtcomes, recordLines_unifyBreaks]
    rfl
  have hread : readText read tests = .ok (Text.unifyBreaks t) :=
    readText_eq_ok_iff.mpr ⟨octets, t, htests, htext, rfl⟩
  have hexit : (reportBatch read program tests).exit =
      if after.allPassed then exitOk else exitError := by
    unfold reportBatch
    rcases hload : loadProgram read program with ⟨log, f | words'⟩
    · rw [hload] at hprogram
      cases hprogram
    · rw [hload] at hprogram
      obtain rfl := Except.ok.inj hprogram
      dsimp only
      rw [hread]
      dsimp only
      rw [hafter]
  rw [hexit, ← hpassed]
  cases after.allPassed with
  | true => exact ⟨by decide, .inl rfl⟩
  | false => exact ⟨by decide, .inr rfl⟩

end

end Command

namespace Console

open Batch Command

section

variable {time : Text} {tree opened : FileTree} {i : Invocation} {lines : List Log.Line}

/-- A log that can be opened can be written. -/
lemma exists_keepLog (h : keepLog time tree i lines = .ok opened) (lines' : List Log.Line) :
    ∃ logged, keepLog time tree i lines' = .ok logged := by
  unfold keepLog at h ⊢
  split
  · next hkeeps =>
    rw [if_pos hkeeps] at h
    exact FileTree.exists_append h _
  · exact ⟨tree, rfl⟩

/-- A command that writes no file makes its report, if the log can be opened, and only the log is
written. -/
lemma exists_run_eq_of_save_none {words : List Text} (hwords : Invocation.read words = .accepted i)
    (hopened : keepLog time tree i i.command.opening = .ok opened)
    (hsave : (i.command.report opened.read).save = none) :
    ∃ logged, keepLog time tree i (i.command.report opened.read).log = .ok logged ∧
      run time tree words = (logged, .reported (i.command.report opened.read)) := by
  obtain ⟨logged, hlogged⟩ := exists_keepLog hopened (i.command.report opened.read).log
  have hcarried : carryOut time tree i = .ok (logged, i.command.report opened.read) := by
    unfold carryOut
    rw [hopened]
    dsimp only
    rw [hlogged]
    dsimp only
    rw [save_eq_of_save_none hsave]
  refine ⟨logged, hlogged, ?_⟩
  unfold run
  rw [hwords]
  dsimp only
  rw [hcarried]

lemma run_of_save_none {words : List Text} (hwords : Invocation.read words = .accepted i)
    (hopened : keepLog time tree i i.command.opening = .ok opened)
    (hsave : (i.command.report opened.read).save = none) :
    (run time tree words).2 = .reported (i.command.report opened.read) := by
  obtain ⟨logged, -, hrun⟩ := exists_run_eq_of_save_none hwords hopened hsave
  rw [hrun]

/-- The exit code of a command line for a batch tells whether the test file has passed. -/
theorem exit_batch {words : List Text} {program tests t : Text} {image : List Int}
    {octets : List UInt8} (hwords : Invocation.read words = .accepted i)
    (hcommand : i.command = .batch program tests)
    (hopened : keepLog time tree i i.command.opening = .ok opened)
    (hprogram : (loadProgram opened.read program).2 = .ok image)
    (htests : opened.read tests = .ok octets) (htext : Text.Utf8.decode octets = .ok t)
    (hreadable : IsReadable t) :
    ((run time tree words).2.exit = exitOk ↔ Passes (image.map .integer) t) ∧
      ((run time tree words).2.exit = exitOk ∨ (run time tree words).2.exit = exitError) := by
  have hreport : i.command.report opened.read = reportBatch opened.read program tests := by
    rw [hcommand]
    rfl
  have hsave : (i.command.report opened.read).save = none := by
    rw [hcommand]
    exact save_report opened.read program (.batch tests)
  rw [run_of_save_none hwords hopened hsave, hreport]
  exact exit_reportBatch hprogram htests htext hreadable

end

/-- A test file is run line by line, and malformed lines do not touch the others. Run on an image,
it gives one outcome for each line that is neither blank nor opened by `#`, in order: that of the
trial for a record, and for a malformed line a failure that tells its number. When lines are made
blank, whichever they are, the others keep their outcomes. In the strict way a file is refused if
some line is malformed, and then with the first such line; otherwise both ways give the same. On a
command line for a batch the exit code is that of success if every such line is a record and has
passed, and otherwise that of failure.

All this holds if every such line can be read. A line with a numeral that has too many digits
cannot, and then it does touch the others: the whole file is refused in both ways, and no outcome
is entered. -/
theorem testFile_line_by_line (t : Text) :
    (IsReadable t →
      (∀ image : List Datum, Machine.AreShowable image → ∃ after os,
        Ledger.runFile { image := some image } none t = (after, .ok os) ∧ after.results = os ∧
          List.Forall₂ (fun line o => IsOutcomeOf image line.1 line.2 o) (recordLines t) os ∧
          ∀ blanked : Nat → Bool, (∃ t', IsBlanked blanked t t') ∧
            ∀ t', IsBlanked blanked t t' → ∃ after' os',
              Ledger.runFile { image := some image } none t' = (after', .ok os') ∧
                (recordLines t').zip os' =
                  ((recordLines t).zip os).filter fun entry => !blanked entry.1.2) ∧
      ((∃ e, Record.parseFile t = .error e) ↔
        ∃ line ∈ recordLines t, ∃ e, Record.parse line.2 line.1 = .error (.malformed e)) ∧
      (∀ e, Record.parseFile t = .error e → ∃ before line after,
        recordLines t = before ++ line :: after ∧
          (∀ earlier ∈ before, ∃ record, Record.parse earlier.2 earlier.1 = .ok record) ∧
          Record.parse line.2 line.1 = .error e) ∧
      (∀ records, Record.parseFile t = .ok records →
        ∀ (l : Ledger) (override : Option (List Datum)),
          l.runSuite override records = l.runFile override t) ∧
      ∀ (time : Text) (tree opened : FileTree) (words : List Text) (i : Invocation)
        (program tests : Text) (image : List Int) (octets : List UInt8),
        Invocation.read words = .accepted i → i.command = .batch program tests →
        keepLog time tree i i.command.opening = .ok opened →
        (loadProgram opened.read program).2 = .ok image →
        opened.read tests = .ok octets → Text.Utf8.decode octets = .ok t →
        ((run time tree words).2.exit = exitOk ↔
          ∀ line ∈ recordLines t, ∃ record o, Record.parse line.2 line.1 = .ok record ∧
            (trial (image.map .integer) record).2 = .ok o ∧ o.verdict = .pass) ∧
        ((run time tree words).2.exit = exitOk ∨ (run time tree words).2.exit = exitError)) ∧
    (¬ IsReadable t → ∃ o, Record.parseFile t = .error (.overflow o) ∧
      ∀ (l : Ledger) (override : Option (List Datum)),
        l.runFile override t = (l, .error (.overflow o))) := by
  refine ⟨fun hreadable => ⟨fun image himage => ?_, exists_parseFile_eq_error_iff hreadable,
    fun e he => (parseFile_eq_error_iff hreadable e).mp he,
    fun records h l override => Ledger.runSuite_of_parseFile h l override, ?_⟩,
    Ledger.runFile_of_not_isReadable⟩
  · have hrun {t : Text} (h : IsReadable t) :=
      Ledger.runFile_outcomes { image := some image } none rfl himage h
    obtain ⟨after, os, hafter, hresults, houtcomes⟩ := hrun hreadable
    refine ⟨after, os, hafter, hresults, houtcomes, fun blanked =>
      ⟨exists_isBlanked blanked t, fun t' hblanked => ?_⟩⟩
    obtain ⟨after', os', hafter', -, houtcomes'⟩ := hrun (hreadable.of_isBlanked hblanked)
    refine ⟨after', os', hafter', ?_⟩
    rw [recordLines_of_isBlanked hblanked] at houtcomes' ⊢
    exact zip_filter_of_outcomes houtcomes (fun line => !blanked line.2) houtcomes'
  · intro time tree opened words i program tests image octets hwords hcommand hopened hprogram
      htests htext
    exact exit_batch hwords hcommand hopened hprogram htests htext hreadable

/-- A test file with two records and a malformed line between them. -/
def mixedText : Text :=
  "# echo\nseven;7;7;9\nmalformed\n\nzero;0;0;9\n"

/-- The same with the malformed line made blank. -/
def cleanText : Text :=
  "# echo\nseven;7;7;9\n \n\nzero;0;0;9\n"

/-- A directory with a source that shows its first input, and the second test file. -/
def testedTree : FileTree :=
  { files := [(["echo.asm"], Text.Utf8.encode "IN\nOUT\nHLT\n"),
      (["clean.txt"], Text.Utf8.encode cleanText)] }

/-- What these two test files come to. -/
theorem testFile_line_by_line_echo :
    (∃ after os after' os',
      Ledger.runFile { image := some [.integer 901, .integer 902] } none mixedText =
        (after, .ok os) ∧
      Ledger.runFile { image := some [.integer 901, .integer 902] } none cleanText =
        (after', .ok os') ∧
      (recordLines cleanText).zip os' =
        ((recordLines mixedText).zip os).filter fun entry => !(entry.1.2 == 3)) ∧
    (∃ line ∈ recordLines mixedText, ∃ e,
      Record.parse line.2 line.1 = .error (.malformed e)) ∧
    (∀ records, Record.parseFile cleanText = .ok records →
      Ledger.runSuite {} none records = Ledger.runFile {} none cleanText) ∧
    ∀ line ∈ recordLines cleanText, ∃ record o, Record.parse line.2 line.1 = .ok record ∧
      (trial ((padded [901, 902, 0]).map .integer) record).2 = .ok o ∧ o.verdict = .pass := by
  obtain ⟨hfile, hstrict, -⟩ :=
    (testFile_line_by_line mixedText).1 (exists_scan_iff.mp ⟨_, rfl⟩)
  obtain ⟨-, -, -, hsuite, hexit⟩ :=
    (testFile_line_by_line cleanText).1 (exists_scan_iff.mp ⟨_, rfl⟩)
  have hshowable : Machine.AreShowable [.integer 901, .integer 902] := by
    unfold Machine.AreShowable
    decide
  have hlines : Text.lines mixedText =
      ["# echo", "seven;7;7;9", "malformed", "", "zero;0;0;9"] := by decide
  have hlines' : Text.lines cleanText = ["# echo", "seven;7;7;9", " ", "", "zero;0;0;9"] := by
    decide
  have hblanked : IsBlanked (fun number => number == 3) mixedText cleanText := by
    refine ⟨fun k hk => ?_, fun k hk => ?_⟩
    · obtain rfl : k = 2 := by simpa using hk
      rw [hlines']
      decide
    · rw [hlines, hlines']
      match k with
      | 0 | 1 | 3 | 4 | _ + 5 => rfl
  have hmalformed : ∃ e, Record.parseFile mixedText = .error e := ⟨_, rfl⟩
  refine ⟨?_, hstrict.mp hmalformed, fun records h => hsuite records h {} none, ?_⟩
  · obtain ⟨after, os, hmixed, -, -, hblank⟩ := hfile _ hshowable
    obtain ⟨after', os', hclean, hrest⟩ :=
      (hblank fun number => number == 3).2 cleanText hblanked
    exact ⟨after, os, after', os', hmixed, hclean, hrest⟩
  · have hok : (run [] testedTree ["batch", "echo.asm", "clean.txt"]).2.exit = exitOk := by
      decide +kernel
    have hprogram : (loadProgram testedTree.read "echo.asm").2 = .ok (padded [901, 902, 0]) := by
      decide +kernel
    have htext : Text.Utf8.decode (Text.Utf8.encode cleanText) = .ok cleanText := by decide +kernel
    have htests : testedTree.read "clean.txt" = .ok (Text.Utf8.encode cleanText) := by
      decide +kernel
    have hwords : Invocation.read ["batch", "echo.asm", "clean.txt"] =
        .accepted ⟨{}, [], .batch "echo.asm" "clean.txt"⟩ := by
      decide +kernel
    exact (hexit [] testedTree testedTree _ _ _ _ _ _ hwords rfl rfl hprogram htests
      htext).1.mp hok

end Console

end LittleMan
