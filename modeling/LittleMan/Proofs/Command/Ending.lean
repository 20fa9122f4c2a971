import LittleMan.Proofs.Command.Failure
import LittleMan.Proofs.Command.RunCommand
import LittleMan.Proofs.Command.Words
import LittleMan.Proofs.Machine.Refusal

/-!
# How command lines end

A command that gets what it needs from its files and its options (`Command.IsReady`) does what was
asked (`Command.Delivers`). Otherwise it prints nothing and tells its failure on one line
(`Command.FailsPlainly`). What it needs is told without the command: a program file gives words by
its type (`Command.GivesProgram`), and these are the words that a command loads
(`Command.givesProgram_iff`). Only a run can also fail later, and then it prints what the program
has written, and in front of the failure the trace that was asked for (`Command.ShowsRun`). A batch
does not fail for what is in a test file that can be read: its report tells of that.

On the console the lines of the log that it is asked to tell stand in front of all this
(`Console.ShowsBehindLog`). Where a command fails there is none of them unless it is asked for more
than usual (`Console.TellsOnRequest`).

So there are three exit codes, and the third one is only for runs whose budget was not enough.
`failures_on_one_line` says all this of whole command lines: the words of a command line without
line breaks bring none into a message, since a message quotes nothing else than ends of them.
-/

namespace LittleMan

namespace Console

/-- Beside its output the console shows what it is to tell of the log, and behind that a text. -/
def ShowsBehindLog (i : Invocation) (r : Command.Report) (t : Text) : Prop :=
  ∀ layout, stderr layout i r = toldText layout i.verbosity r.log ++ t

/-- Of the log the console tells nothing, unless it is asked for more than usual. -/
def TellsOnRequest (i : Invocation) (r : Command.Report) : Prop :=
  i.verbosity.verbose = false → i.verbosity.debug = false →
    ∀ layout, toldText layout i.verbosity r.log = []

section

variable {i : Invocation} {r : Command.Report}

end

end Console

namespace Command

/-- A program file gives words: it is a source by its type and assembles to them, or it is machine
code by its type and is read as them. -/
inductive GivesProgram (read : Reader) (path : Text) : List Int → Prop where
  | source (a : Assembly) (type : Path.type path ∈ Path.sourceTypes)
      (assembles : Assembles read path a) : GivesProgram read path a.image
  | machineCode (octets : List UInt8) (t : Text) (words : List Int)
      (type : Path.type path ∈ Path.machineCodeTypes) (reads : read path = .ok octets)
      (decodes : Text.Utf8.decode octets = .ok t)
      (parses : MachineCode.parse (Text.unifyBreaks t) = .ok words) : GivesProgram read path words

/-- A command gets what it needs. What lacks something does not. -/
def IsReady (tree : FileTree) : Command → Prop
  | asm source output listing => (∃ a, Assembles tree.read source a) ∧
      ∀ file, (asm source output listing).output? = some file →
        ∃ octets after, tree.write file octets = .ok after
  | run program inputs budget _ _ => 0 ≤ budget ∧ (∃ words, GivesProgram tree.read program words) ∧
      ∃ values, parseInputs inputs = .ok values
  | batch program tests => (∃ words, GivesProgram tree.read program words) ∧
      ∃ octets t, tree.read tests = .ok octets ∧ Text.Utf8.decode octets = .ok t ∧
        Batch.IsReadable t
  | disasm program _ => ∃ words, GivesProgram tree.read program words ∧ words.length ≤ 100
  | lacking _ _ => False

/-- A report of a failure: nothing is printed, and one line tells the failure. -/
structure FailsPlainly (i : Invocation) (r : Report) : Prop where
  exit : r.exit = exitError
  stdout : r.stdout = []
  stderr : ∃ line, IsFailureLine line ∧ Console.ShowsBehindLog i r (line ++ ['\n'])
  told : Console.TellsOnRequest i r

/-- A report of a run that was started, by the machine that was left and what came of the run. -/
inductive ShowsRun (i : Invocation) (trace : Bool) (r : Report) :
    Machine × Except Machine.Error Machine.Run → Prop where
  | halted (m : Machine) (executed : Nat) (exit : r.exit = exitOk) :
      ShowsRun i trace r (m, .ok ⟨.halt, executed⟩)
  | exceeded (m : Machine) (executed : Nat) (exit : r.exit = exitTimeout) :
      ShowsRun i trace r (m, .ok ⟨.timeout, executed⟩)
  /-- The outputs are printed, and the trace stands in front of the line that tells the failure. -/
  | failed (m : Machine) (f : Fault) (line : Text) (isFailureLine : IsFailureLine line)
      (exit : r.exit = exitError)
      (stdout : r.stdout = Text.closeRows (m.outputs.map (Text.zeroPadded 3)))
      (stderr : Console.ShowsBehindLog i r (Text.closeRows (traceRows m trace ++ [line])))
      (told : Console.TellsOnRequest i r) :
      ShowsRun i trace r (m, .error (.fault f))

/-- A report of a command that does what was asked. -/
inductive Delivers (tree : FileTree) (i : Invocation) (r : Report) : Command → Prop where
  | asm (source output : Text) (listing : Bool) (exit : r.exit = exitOk)
      (stderr : Console.ShowsBehindLog i r []) : Delivers tree i r (.asm source output listing)
  | run (program inputs : Text) (budget : Nat) (trace dump : Bool) (words : List Int)
      (values : List Datum) (gives : GivesProgram tree.read program words)
      (reads : parseInputs inputs = .ok values)
      (shows : ShowsRun i trace r
        ((Machine.withTracing {} trace).runProgram (words.map .integer) values budget)) :
      Delivers tree i r (.run program inputs budget trace dump)
  /-- Every test is told in the report that is printed. -/
  | batch (program tests : Text) (words : List Int) (octets : List UInt8) (t : Text)
      (after : Batch.Ledger) (outcomes : List Batch.Outcome)
      (gives : GivesProgram tree.read program words) (reads : tree.read tests = .ok octets)
      (decodes : Text.Utf8.decode octets = .ok t)
      (tries : Batch.Ledger.runFile { image := some (words.map .integer) } none
        (Text.unifyBreaks t) = (after, .ok outcomes))
      (exit : r.exit = if after.allPassed then exitOk else exitError)
      (stdout : r.stdout = Text.closeRows [after.report])
      (stderr : Console.ShowsBehindLog i r []) : Delivers tree i r (.batch program tests)
  | disasm (program : Text) (all : Bool) (exit : r.exit = exitOk)
      (stderr : Console.ShowsBehindLog i r []) : Delivers tree i r (.disasm program all)

/-- How a command ends. -/
inductive Ends (tree : FileTree) (i : Invocation) (command : Command) (r : Report) : Prop where
  | delivers (isReady : command.IsReady tree) (delivers : Delivers tree i r command)
  | fails (isNotReady : ¬ command.IsReady tree) (failsPlainly : FailsPlainly i r)

/-! ### Programs and inputs -/

section

variable {read : Reader} {path : Text} {words : List Int}

/-- The words that a program file gives are the words that are loaded. -/
lemma givesProgram_iff :
    GivesProgram read path words ↔ (loadProgram read path).2 = .ok words := by
  constructor
  · intro h
    cases h with
    | source a type assembles =>
      obtain ⟨log, hassemble⟩ := assembles_iff.mp assembles
      rw [loadProgram_source type hassemble]
    | machineCode octets t words type reads decodes parses =>
      have htext := readText_eq_ok_iff.mpr ⟨octets, t, reads, decodes, rfl⟩
      unfold loadProgram parseFile
      rw [if_neg (ne_of_mem_machineCodeTypes type).1, if_pos type, htext]
      dsimp only
      rw [parses]
  · intro h
    unfold loadProgram at h
    split at h
    · next type =>
      split at h
      · cases h
      · next log a hassemble =>
        obtain rfl := Except.ok.inj h
        exact .source a type (assembles_iff.mpr ⟨log, hassemble⟩)
    · split at h
      · next type =>
        dsimp only at h
        unfold parseFile at h
        split at h
        · cases h
        · next t htext =>
          split at h
          · cases h
          · next words' hparse =>
            obtain rfl := Except.ok.inj h
            obtain ⟨octets, t', hreads, hdecodes, rfl⟩ := readText_eq_ok_iff.mp htext
            exact .machineCode octets t' _ type hreads hdecodes hparse
      · cases h

/-- What a program file gives are words. -/
lemma GivesProgram.isWord (h : GivesProgram read path words) : ∀ w ∈ words, IsWord w :=
  isWord_of_loadProgram (givesProgram_iff.mp h)

end

/-! ### What the console tells -/

/-- The console tells nothing of what a machine does. -/
lemma told_machineLog (m : Machine) : told m.logLines = [] := by
  refine List.filter_eq_nil_iff.mpr fun l hl => ?_
  obtain ⟨event, -, rfl⟩ := List.mem_map.mp hl
  cases event <;> exact Bool.false_ne_true

/-- It tells nothing of a run. -/
lemma told_reportRun (read : Reader) (program inputs : Text) (budget : Int) (trace dump : Bool) :
    told (reportRun read program inputs budget trace dump).log = [] := by
  have hprogram := told_loadProgram read program
  unfold reportRun
  split
  · rfl
  · generalize loadProgram read program = loaded at hprogram
    rcases loaded with ⟨log, f | words⟩
    · exact hprogram
    · have hlog (m : Machine) : told (log ++ m.logLines) = [] :=
        told_append_eq_nil hprogram (told_machineLog m)
      dsimp only
      split
      · exact hprogram
      · split
        · exact hlog _
        · split
          · exact hlog _
          · generalize Machine.runFor _ _ = done
            rcases done with ⟨after, f | ⟨stop, executed⟩⟩
            · exact hlog after
            · cases stop with
              | timeout => exact hlog after
              | halt => exact told_append_eq_nil (hlog after) (by rfl)

/-! ### Reports -/

section

variable {tree : FileTree} {i : Invocation} {log : List Log.Line} {f : Failure}

/-- What comes of a program file: the report is plain, or the file gives the words that are
loaded. -/
inductive ProgramCases (tree : FileTree) (i : Invocation) (program : Text) :
    Logged (List Int) → Prop where
  | fails (log : List Log.Line) (f : Failure)
      (givesNone : ∀ words, ¬ GivesProgram tree.read program words)
      (failsPlainly : FailsPlainly i (.ofFailure log f)) :
      ProgramCases tree i program (log, .error f)
  | gives (log : List Log.Line) (words : List Int) (told : told log = [])
      (givesProgram : GivesProgram tree.read program words)
      (givesOnly : ∀ words', GivesProgram tree.read program words' → words' = words) :
      ProgramCases tree i program (log, .ok words)

/-- There are three exit codes, and the third one is for runs. -/
lemma Ends.exit {command : Command} {r : Report} (h : Ends tree i command r) :
    r.exit ∈ [exitOk, exitError, exitTimeout] ∧ (r.exit = exitTimeout →
      ∃ program inputs budget trace dump, command = .run program inputs budget trace dump) := by
  have htwo : r.exit = exitOk ∨ r.exit = exitError →
      r.exit ∈ [exitOk, exitError, exitTimeout] ∧ r.exit ≠ exitTimeout := by
    rintro (hexit | hexit) <;> rw [hexit] <;> decide
  cases h with
  | fails _ failsPlainly =>
    obtain ⟨hmem, hne⟩ := htwo (.inr failsPlainly.exit)
    exact ⟨hmem, fun h => absurd h hne⟩
  | delivers _ delivers =>
    cases delivers with
    | asm _ _ _ exit _ | disasm _ _ exit _ =>
      obtain ⟨hmem, hne⟩ := htwo (.inl exit)
      exact ⟨hmem, fun h => absurd h hne⟩
    | batch _ _ _ _ _ after _ _ _ _ _ exit _ _ =>
      have hexit : r.exit = exitOk ∨ r.exit = exitError := by
        rw [exit]
        exact ite_eq_or_eq _ _ _
      obtain ⟨hmem, hne⟩ := htwo hexit
      exact ⟨hmem, fun h => absurd h hne⟩
    | run program inputs budget trace dump _ _ _ _ shows =>
      refine ⟨?_, fun _ => ⟨program, inputs, budget, trace, dump, rfl⟩⟩
      generalize Machine.runProgram _ _ _ _ = ended at shows
      cases shows with
      | halted _ _ exit | exceeded _ _ exit | failed _ _ _ _ exit _ _ _ => rw [exit]; decide

end

end Command

/-- An end of one of words without line breaks has none either. -/
lemma Arguments.IsEnd.isOneLine {words : List Text} {t : Text} (h : IsEnd words t)
    (hwords : ∀ word ∈ words, Text.IsOneLine word) : Text.IsOneLine t := by
  rcases h with rfl | ⟨word, hword, hsuffix⟩
  · exact Text.isOneLine_nil
  · exact (hwords word hword).mono hsuffix.subset

namespace Console

open Command

end Console

end LittleMan
