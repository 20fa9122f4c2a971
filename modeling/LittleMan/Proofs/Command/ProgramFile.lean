import LittleMan.Command.Basic
import LittleMan.Proofs.Assembly.Loading

/-!
# Program files

A command that works on a program file does not show whether the file was a source or machine code:
if two files give the same words, the command gives the same exit code, prints the same, and tells
the same on the console (`alike_report`). A source that assembles and the machine code made of it
give the same words, so the commands cannot tell them apart (`alike_of_reportAsm`), however the
files are kept.
-/

namespace LittleMan

namespace Command

/-! ### Commands on a program -/

/-- What to do with a program file. -/
inductive Task where
  /-- Run it. -/
  | run (inputs : Text) (budget : Int) (trace dump : Bool)
  /-- Try it on a test file. -/
  | batch (tests : Text)
  /-- Disassemble it. -/
  | disasm (all : Bool)
  /-- Start on it with something lacking. -/
  | lacking (lack : Lack)

/-- The command that does a task with a program file. -/
def Task.on (program : Text) : Task → Command
  | run inputs budget trace dump => .run program inputs budget trace dump
  | batch tests => .batch program tests
  | disasm all => .disasm program all
  | lacking lack => .lacking lack program

/-- What the console tells of a log if it is not asked for more. -/
def told (log : List Log.Line) : List Log.Line :=
  log.filter fun l => Verbosity.tells {} l.level

/-- Two reports show the same: the exit code, what is printed, and what the console tells of the
log. -/
structure Alike (r r' : Report) : Prop where
  exit : r.exit = r'.exit
  stdout : r.stdout = r'.stdout
  stderr : r.stderr = r'.stderr
  told : told r.log = told r'.log

/-! ### The same words -/

section

variable {log log' : List Log.Line}

/-- Logs of which the same is told still are when they go on in the same way. -/
lemma told_append (h : told log = told log') (rest : List Log.Line) :
    told (log ++ rest) = told (log' ++ rest) := by
  unfold told at h ⊢
  rw [List.filter_append, List.filter_append, h]

/-- A run that was started shows the same whatever log it goes on with. -/
lemma alike_reportEnded (h : told log = told log') (m : Machine) (budget : Int)
    (trace dump : Bool) (ended : Except Fault Machine.Run) :
    Alike (reportEnded log m budget trace dump ended)
      (reportEnded log' m budget trace dump ended) := by
  have hmachine := told_append h m.logLines
  rcases ended with f | ⟨stop, executed⟩
  · exact ⟨rfl, rfl, rfl, hmachine⟩
  · cases stop with
    | timeout => exact ⟨rfl, rfl, rfl, hmachine⟩
    | halt => exact ⟨rfl, rfl, rfl, told_append hmachine _⟩

variable {read : Reader} {program program' : Text} {words : List Int}

/-- Runs of program files with the same words show the same. -/
lemma alike_reportRun (h : told log = told log')
    (hload : loadProgram read program = (log, .ok words))
    (hload' : loadProgram read program' = (log', .ok words)) (inputs : Text) (budget : Int)
    (trace dump : Bool) : Alike (reportRun read program inputs budget trace dump)
      (reportRun read program' inputs budget trace dump) := by
  unfold reportRun
  split
  · exact ⟨rfl, rfl, rfl, rfl⟩
  · rw [hload, hload']
    dsimp only
    split
    · exact ⟨rfl, rfl, rfl, h⟩
    · split
      · exact ⟨rfl, rfl, rfl, told_append h _⟩
      · split
        · exact ⟨rfl, rfl, rfl, told_append h _⟩
        · exact alike_reportEnded h _ _ _ _ _

/-- Batches on program files with the same words show the same. -/
lemma alike_reportBatch (h : told log = told log')
    (hload : loadProgram read program = (log, .ok words))
    (hload' : loadProgram read program' = (log', .ok words)) (tests : Text) :
    Alike (reportBatch read program tests) (reportBatch read program' tests) := by
  unfold reportBatch
  rw [hload, hload']
  dsimp only
  split
  · exact ⟨rfl, rfl, rfl, h⟩
  · split
    · exact ⟨rfl, rfl, rfl, told_append h _⟩
    · exact ⟨rfl, rfl, rfl, told_append h _⟩

/-- Disassemblies of program files with the same words show the same. -/
lemma alike_reportDisasm (h : told log = told log')
    (hload : loadProgram read program = (log, .ok words))
    (hload' : loadProgram read program' = (log', .ok words)) (all : Bool) :
    Alike (reportDisasm read program all) (reportDisasm read program' all) := by
  unfold reportDisasm
  rw [hload, hload']
  dsimp only
  split
  · exact ⟨rfl, rfl, rfl, h⟩
  · exact ⟨rfl, rfl, rfl, h⟩

/-- Commands that lack something show the same on program files with the same words. -/
lemma alike_reportLacking (h : told log = told log')
    (hload : loadProgram read program = (log, .ok words))
    (hload' : loadProgram read program' = (log', .ok words)) (lack : Lack) :
    Alike (reportLacking read lack program) (reportLacking read lack program') := by
  unfold reportLacking
  rw [hload, hload']
  cases lack with
  | budget => exact ⟨rfl, rfl, rfl, rfl⟩
  | tests => exact ⟨rfl, rfl, rfl, h⟩
  | inputs =>
    dsimp only
    split
    · exact ⟨rfl, rfl, rfl, h⟩
    · exact ⟨rfl, rfl, rfl, told_append h _⟩

/-- Whatever is to be done, program files with the same words show the same. -/
theorem alike_report (h : told log = told log')
    (hload : loadProgram read program = (log, .ok words))
    (hload' : loadProgram read program' = (log', .ok words)) (task : Task) :
    Alike ((task.on program).report read) ((task.on program').report read) := by
  cases task with
  | run inputs budget trace dump => exact alike_reportRun h hload hload' inputs budget trace dump
  | batch tests => exact alike_reportBatch h hload hload' tests
  | disasm all => exact alike_reportDisasm h hload hload' all
  | lacking lack => exact alike_reportLacking h hload hload' lack

end

/-- A run writes no file. -/
lemma save_reportEnded (log : List Log.Line) (m : Machine) (budget : Int) (trace dump : Bool)
    (ended : Except Fault Machine.Run) :
    (reportEnded log m budget trace dump ended).save = none := by
  rcases ended with f | ⟨_ | _, executed⟩ <;> rfl

/-- No task writes a file. -/
lemma save_report (read : Reader) (program : Text) (task : Task) :
    ((task.on program).report read).save = none := by
  cases task with
  | run inputs budget trace dump =>
    change (reportRun read program inputs budget trace dump).save = none
    unfold reportRun
    repeat' split
    all_goals first | rfl | exact save_reportEnded _ _ _ _ _ _
  | batch tests =>
    change (reportBatch read program tests).save = none
    unfold reportBatch
    repeat' split
    all_goals rfl
  | disasm all =>
    change (reportDisasm read program all).save = none
    unfold reportDisasm
    repeat' split
    all_goals rfl
  | lacking lack =>
    change (reportLacking read lack program).save = none
    unfold reportLacking
    repeat' split
    all_goals rfl

/-! ### What the log tells of a program file -/

/-- The console does not tell that a program file is opened. -/
lemma told_openingLines (path : Text) : told (openingLines path) = [] := by
  unfold openingLines
  split
  · rfl
  · split <;> rfl

/-- The console does not tell of an assembly. -/
lemma told_logLines (a : Assembly) : told a.logLines = [] := by
  refine List.filter_eq_nil_iff.mpr fun l hl => ?_
  have hlevel : l.level = .debug ∨ l.level = .info := by
    unfold Assembly.logLines at hl
    dsimp only at hl
    simp only [List.mem_append, List.mem_cons, List.mem_map] at hl
    rcases hl with ((rfl | ⟨_, -, rfl⟩) | ⟨_, -, rfl⟩) | hl
    · exact Or.inr rfl
    · exact Or.inl rfl
    · exact Or.inl rfl
    · split at hl
      · rw [List.mem_singleton.mp hl]
        exact Or.inr rfl
      · cases hl
  rcases hlevel with hlevel | hlevel <;> rw [hlevel] <;> decide

/-! ### Sources and machine code -/

section

variable {read : Reader} {source output : Text}

/-- The text of a file is what was read and decoded, but for the line breaks. -/
lemma readText_eq_ok_iff {path t : Text} : readText read path = .ok t ↔
    ∃ octets t', read path = .ok octets ∧ Text.Utf8.decode octets = .ok t' ∧
      t = Text.unifyBreaks t' := by
  unfold readText
  cases read path with
  | error e => simp
  | ok octets => cases hdecode : Text.Utf8.decode octets <;> simp [hdecode, eq_comm]

/-- An assembly in a file is the assembly of its text. -/
lemma readText_of_assembleFile {log : List Log.Line} {a : Assembly}
    (h : assembleFile read source = (log, .ok a)) :
    ∃ t, readText read source = .ok t ∧ a = .ofSource (.text t) ∧ log = a.logLines ∧
      assemble (.text t) = .ok a.image := by
  unfold assembleFile at h
  split at h
  · cases h
  · next t htext =>
    dsimp only at h
    split at h
    · cases h
    · next image hresult =>
      obtain ⟨rfl, ha⟩ := Prod.mk.inj h
      obtain rfl := Except.ok.inj ha
      obtain ⟨-, rfl⟩ := (Assembly.result_eq_ok_iff _ image).mp hresult
      exact ⟨t, htext, rfl, rfl, hresult⟩

/-- A source gives the words of its image. -/
lemma loadProgram_source (htype : Path.type source ∈ Path.sourceTypes) {log : List Log.Line}
    {a : Assembly} (h : assembleFile read source = (log, .ok a)) :
    loadProgram read source = (openingLines source ++ log, .ok a.image) := by
  unfold loadProgram
  rw [if_pos htype, h]

/-- No type of machine code is one of a source or of a listing, and every one is a type. -/
lemma ne_of_mem_machineCodeTypes {type : Text} (h : type ∈ Path.machineCodeTypes) :
    type ∉ Path.sourceTypes ∧ type ≠ Path.listingType ∧ type ≠ [] := by
  revert type
  decide

/-- Machine code gives the words that it was written from. -/
lemma loadProgram_machineCode (htype : Path.type output ∈ Path.machineCodeTypes)
    {words : List Int} (hwords : ∀ w ∈ words, IsWord w)
    (h : read output = .ok (Text.Utf8.encode (MachineCode.render words))) :
    loadProgram read output = (openingLines output, .ok words) := by
  obtain ⟨hdecode, hbreaks⟩ := MachineCode.decode_render hwords
  have htext : readText read output = .ok (MachineCode.render words) :=
    readText_eq_ok_iff.mpr ⟨_, _, h, hdecode, hbreaks.symm⟩
  have hwords' : parseFile read output = .ok words := by
    unfold parseFile
    rw [htext]
    dsimp only
    rw [MachineCode.parse_render hwords]
  unfold loadProgram
  rw [if_neg (ne_of_mem_machineCodeTypes htype).1, if_pos htype, hwords']

/-- Whatever a program file is, it gives words. -/
theorem isWord_of_loadProgram {path : Text} {words : List Int}
    (h : (loadProgram read path).2 = .ok words) : ∀ w ∈ words, IsWord w := by
  unfold loadProgram at h
  split at h
  · split at h
    · cases h
    · next log a hassemble =>
      obtain rfl := Except.ok.inj h
      obtain ⟨t, -, -, -, himage⟩ := readText_of_assembleFile hassemble
      exact (Assembly.isProgramText_of_assemble himage).isWord
  · split at h
    · dsimp only at h
      unfold parseFile at h
      split at h
      · cases h
      · split at h
        · cases h
        · next t _ _ words' hparse =>
          obtain rfl := Except.ok.inj h
          exact MachineCode.isWord_of_parse hparse
    · cases h

/-- A source that was assembled to machine code, and what was written. -/
lemma save_of_reportAsm (htype : Path.type output ∈ Path.machineCodeTypes)
    (h : (reportAsm read source output false).exit = exitOk) :
    ∃ log a, assembleFile read source = (log, .ok a) ∧
      (reportAsm read source output false).save = some (output, a.machineCode) := by
  obtain ⟨-, hlisting, htyped⟩ := ne_of_mem_machineCodeTypes htype
  have houtput : output.isEmpty = false := by
    cases output with
    | nil => exact absurd rfl htyped
    | cons => rfl
  unfold reportAsm at h ⊢
  split at h
  · cases h
  · next log a hassemble =>
    refine ⟨log, a, hassemble, ?_⟩
    rw [if_neg (by decide), houtput, if_neg (by decide), if_neg hlisting]

end

/-- A source and the machine code that was made of it show the same, whatever is to be done with
them. It does not matter how files are kept, as long as the machine code is read as it was written
and the source as it was before. -/
theorem alike_of_reportAsm {before : Reader} {source output : Text}
    (hsource : Path.type source ∈ Path.sourceTypes)
    (houtput : Path.type output ∈ Path.machineCodeTypes)
    (h : (reportAsm before source output false).exit = exitOk) :
    ∃ content, (reportAsm before source output false).save = some (output, content) ∧
      ∀ after : Reader, after output = .ok (Text.Utf8.encode content) →
        after source = before source → ∀ task : Task,
          Alike ((task.on output).report after) ((task.on source).report after) := by
  obtain ⟨log, a, hassemble, hsave⟩ := save_of_reportAsm houtput h
  obtain ⟨t, htext, rfl, rfl, himage⟩ := readText_of_assembleFile hassemble
  refine ⟨_, hsave, fun after hwritten hkept task => ?_⟩
  have hwords := (Assembly.isProgramText_of_assemble himage).isWord
  have hassemble' : assembleFile after source =
      ((Assembly.ofSource (.text t)).logLines, .ok (.ofSource (.text t))) := by
    rw [← hassemble]
    unfold assembleFile readText
    rw [hkept]
  refine alike_report ?_ (loadProgram_machineCode houtput hwords hwritten)
    (loadProgram_source hsource hassemble') task
  unfold told
  rw [List.filter_append]
  change told _ = told _ ++ told _
  rw [told_openingLines, told_openingLines, told_logLines, List.append_nil]

end Command

end LittleMan
