import LittleMan.Assembly.Assembler
import LittleMan.Proofs.Command.CommandLine

/-!
# Line breaks

The texts that the toolkit reads are read by their lines: a source, machine code and a test file
alike. So two texts with the same lines cannot be told apart by anything that reads them
(`readAlike_of_lines`), and that the breaks of a file are brought to one kind when it is read makes
no difference, wherever pairs of breaks and single ones stand together. What a command makes of a
file is what the readers make of the text in it (`lineBreaks_irrelevant`).
-/

namespace LittleMan

namespace Text

/-- The text with every pair of a carriage return and a line feed made a line feed. -/
def joinPairs : Text → Text
  | [] => []
  | '\r' :: '\n' :: rest => '\n' :: joinPairs rest
  | c :: rest => c :: joinPairs rest

/-- The text with every carriage return made a line feed. -/
def feedReturns (t : Text) : Text :=
  t.map fun c => if c = '\r' then '\n' else c

/-- The breaks of a text are brought to one kind in two steps, the pairs first. -/
lemma unifyBreaks_eq_feedReturns (t : Text) : unifyBreaks t = feedReturns (joinPairs t) := by
  fun_induction unifyBreaks t with
  | case1 => rfl
  | case2 rest ih =>
    rw [joinPairs, ih]
    rfl
  | case3 c rest hpair ih =>
    rw [joinPairs.eq_3 c rest hpair, ih]
    rfl

end Text

/-- Nothing that reads a text can tell two texts apart. -/
structure ReadAlike (t u : Text) : Prop where
  /-- An assembler makes the same of them as sources: the image or the error that is reported, and
  everything that is on the bench afterwards. -/
  assemble : ∀ a : Assembler, a.assemble (.text u) = a.assemble (.text t)
  /-- This is the assembly with the same errors, the same labels and the same listing. -/
  ofSource : Assembly.ofSource (.text u) = Assembly.ofSource (.text t)
  /-- As machine code they have the same words or the same error. -/
  parse : MachineCode.parse u = MachineCode.parse t
  /-- As test files they have the same records and malformed lines, with the same numbers. -/
  scan : Batch.Record.scan u = Batch.Record.scan t
  runFile : ∀ (l : Batch.Ledger) (override : Option (List Datum)),
    l.runFile override u = l.runFile override t

/-- What reads a text reads its lines. -/
theorem readAlike_of_lines {t u : Text} (h : Text.lines u = Text.lines t) : ReadAlike t u := by
  have hsource : Source.toLines (.text u) = Source.toLines (.text t) := h
  have hscan : Batch.Record.scan u = Batch.Record.scan t := by
    unfold Batch.Record.scan Batch.Record.numberedLines
    rw [h]
  refine ⟨fun a => ?_, ?_, ?_, hscan, fun l override => ?_⟩
  · unfold Assembler.assemble
    rw [hsource]
  · unfold Assembly.ofSource
    rw [hsource]
  · unfold MachineCode.parse MachineCode.numberedTokens
    rw [h]
  · unfold Batch.Ledger.runFile
    rw [hscan]

namespace Command

/-! ### Files -/

/-- The lines of the text in a file. -/
def fileLines (read : Reader) (path : Text) : Except Failure (List Text) :=
  match read path with
  | .error e => .error (.file e)
  | .ok octets => match Text.Utf8.decode octets with
    | .error d => .error (.undecodable d)
    | .ok t => .ok (Text.lines t)

/-- What commands make of a file with a text in it is what the readers make of the text. -/
structure TakesText (read : Reader) (path t : Text) : Prop where
  /-- As a source: the assembly, or the error that is reported. -/
  source : assembleFile read path = ((Assembly.ofSource (.text t)).logLines,
    ((assemble (.text t)).mapError .assembly).map fun _ => Assembly.ofSource (.text t))
  /-- As machine code: the words, or the error. -/
  machineCode : parseFile read path =
    (MachineCode.parse t).mapError fun cause => .machine { cause }
  /-- As a test file: the report on its records and malformed lines, or the error for which the file
  is refused. -/
  tests : ∀ (program : Text) (log : List Log.Line) (words : List Int),
    loadProgram read program = (log, .ok words) →
      reportBatch read program path =
        match Batch.Ledger.runFile { image := some (words.map .integer) } none t with
        | (after, .error e) => .ofFailure (log ++ after.log.toList) (.batch e)
        | (after, .ok _) =>
          ⟨if after.allPassed then exitOk else exitError, Text.closeRows [after.report], [],
            log ++ after.log.toList, none⟩

section

variable {read read' : Reader} {path t u : Text} {octets : List UInt8}

/-- A text that is read alike takes the place of the text that was read from the file. -/
lemma takesText_of_readAlike (hread : readText read path = .ok u) (h : ReadAlike t u) :
    TakesText read path t where
  source := by
    unfold assembleFile
    rw [hread]
    dsimp only
    rw [h.ofSource]
    unfold assemble
    cases (Assembly.ofSource (.text t)).result <;> rfl
  machineCode := by
    unfold parseFile
    rw [hread]
    dsimp only
    rw [h.parse]
    cases MachineCode.parse t <;> rfl
  tests program log words hload := by
    unfold reportBatch
    rw [hload]
    dsimp only
    rw [hread]
    dsimp only
    have hrun := h.runFile { image := some (words.map .integer) } none
    generalize Batch.Ledger.runFile _ none u = tried at hrun ⊢
    subst hrun
    rfl

/-- Files with the same lines hold texts that are read alike, or they fail in the same way. -/
lemma readText_cases (h : fileLines read path = fileLines read' path) :
    (∃ f, readText read path = .error f ∧ readText read' path = .error f) ∨
      ∃ t u, readText read path = .ok t ∧ readText read' path = .ok u ∧ ReadAlike t u := by
  have hlines (read : Reader) : fileLines read path = (readText read path).map Text.lines := by
    unfold fileLines readText
    cases read path with
    | error e => rfl
    | ok octets =>
      dsimp only
      cases Text.Utf8.decode octets with
      | error d => rfl
      | ok t => exact congrArg Except.ok (Text.lines_unifyBreaks t).symm
  rw [hlines, hlines] at h
  cases hread : readText read path with
  | error f =>
    cases hread' : readText read' path with
    | error f' =>
      rw [hread, hread'] at h
      obtain rfl := Except.error.inj h
      exact .inl ⟨f, rfl, rfl⟩
    | ok u =>
      rw [hread, hread'] at h
      cases h
  | ok t =>
    cases hread' : readText read' path with
    | error f =>
      rw [hread, hread'] at h
      cases h
    | ok u =>
      rw [hread, hread'] at h
      exact .inr ⟨t, u, rfl, rfl, readAlike_of_lines (Except.ok.inj h).symm⟩

/-- Only the lines of a source file count. -/
lemma assembleFile_congr (h : fileLines read path = fileLines read' path) :
    assembleFile read path = assembleFile read' path := by
  unfold assembleFile
  obtain ⟨f, hread, hread'⟩ | ⟨t, u, hread, hread', halike⟩ := readText_cases h
  · rw [hread, hread']
  · rw [hread, hread']
    dsimp only
    rw [halike.ofSource]

/-- Only the lines of a file with machine code count. -/
lemma parseFile_congr (h : fileLines read path = fileLines read' path) :
    parseFile read path = parseFile read' path := by
  unfold parseFile
  obtain ⟨f, hread, hread'⟩ | ⟨t, u, hread, hread', halike⟩ := readText_cases h
  · rw [hread, hread']
  · rw [hread, hread']
    dsimp only
    rw [halike.parse]

/-- So it is with a program file of any type. -/
lemma loadProgram_congr (h : fileLines read path = fileLines read' path) :
    loadProgram read path = loadProgram read' path := by
  unfold loadProgram
  rw [assembleFile_congr h, parseFile_congr h]

/-- Only the lines of a test file count. -/
lemma reportBatch_congr {program tests : Text}
    (hprogram : fileLines read program = fileLines read' program)
    (htests : fileLines read tests = fileLines read' tests) :
    reportBatch read program tests = reportBatch read' program tests := by
  unfold reportBatch
  rw [loadProgram_congr hprogram]
  obtain ⟨f, hread, hread'⟩ | ⟨t, u, hread, hread', halike⟩ := readText_cases htests
  · rw [hread, hread']
  · rw [hread, hread']
    dsimp only
    simp only [halike.runFile]

/-- A command reports the same on files with the same lines. -/
theorem report_congr (c : Command)
    (h : ∀ path ∈ c.paths, fileLines read path = fileLines read' path) :
    c.report read = c.report read' := by
  cases c with
  | asm source output listing =>
    have hsource := assembleFile_congr (h source List.mem_cons_self)
    change reportAsm read source output listing = reportAsm read' source output listing
    unfold reportAsm
    rw [hsource]
  | run program inputs budget trace dump =>
    have hprogram := loadProgram_congr (h program List.mem_cons_self)
    change reportRun read program inputs budget trace dump =
      reportRun read' program inputs budget trace dump
    unfold reportRun
    rw [hprogram]
  | batch program tests =>
    exact reportBatch_congr (h program List.mem_cons_self)
      (h tests (List.mem_cons_of_mem _ List.mem_cons_self))
  | disasm program all =>
    have hprogram := loadProgram_congr (h program List.mem_cons_self)
    change reportDisasm read program all = reportDisasm read' program all
    unfold reportDisasm
    rw [hprogram]
  | lacking lack program =>
    have hprogram := loadProgram_congr (h program List.mem_cons_self)
    change reportLacking read lack program = reportLacking read' lack program
    unfold reportLacking
    rw [hprogram]

end

/-- Line breaks do not matter to any text that is read. When every pair of a carriage return and a
line feed in a text is made a line feed, and then every other carriage return, which is what happens
to a file when it is read, nothing that reads the text can tell: it is assembled to the same, with
the same errors, labels and listing, it holds the same words as machine code, and the same records
and malformed lines as a test file. So what a command makes of a file is what the readers make of
the text in it, and a command reports the same on files that only differ in their line breaks. -/
theorem lineBreaks_irrelevant :
    (∀ t, Text.unifyBreaks t = Text.feedReturns (Text.joinPairs t) ∧
      ReadAlike t (Text.unifyBreaks t)) ∧
    (∀ (read : Reader) (path t : Text) (octets : List UInt8), read path = .ok octets →
      Text.Utf8.decode octets = .ok t → TakesText read path t) ∧
    ∀ (read read' : Reader) (c : Command),
      (∀ path ∈ c.paths, fileLines read path = fileLines read' path) →
        c.report read = c.report read' := by
  have halike (t : Text) : ReadAlike t (Text.unifyBreaks t) :=
    readAlike_of_lines (Text.lines_unifyBreaks t)
  refine ⟨fun t => ⟨Text.unifyBreaks_eq_feedReturns t, halike t⟩, ?_, ?_⟩
  · intro read path t octets hread hdecode
    have htext := readText_eq_ok_iff.mpr ⟨octets, t, hread, hdecode, rfl⟩
    exact takesText_of_readAlike htext (halike t)
  · exact fun read read' c h => report_congr c h

/-- A file with three kinds of breaks, and another one with the same lines. -/
theorem lineBreaks_irrelevant_mixed :
    let octets := Text.Utf8.encode "IN\r\nOUT\r\rHLT"
    let octets' := Text.Utf8.encode "IN\nOUT\n\nHLT\n"
    TakesText (fun _ => .ok octets) "echo.lmc" "IN\r\nOUT\r\rHLT" ∧
      ∀ inputs budget trace dump,
        (Command.run "echo.lmc" inputs budget trace dump).report (fun _ => .ok octets) =
          (Command.run "echo.lmc" inputs budget trace dump).report fun _ => .ok octets' := by
  intro octets octets'
  obtain ⟨-, hfile, hcommand⟩ := lineBreaks_irrelevant
  refine ⟨hfile _ _ _ octets rfl (by decide), fun inputs budget trace dump => ?_⟩
  refine hcommand _ _ _ (List.forall_mem_singleton.mpr ?_)
  decide

end Command

end LittleMan
