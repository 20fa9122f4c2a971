import LittleMan.Proofs.Command.Failure
import LittleMan.Proofs.Machine.Story
import Mathlib.Data.List.Basic

/-!
# The story of a run in lines

A run with a trace is told in three texts: in the log, in the rows of the trace, and in what is
printed. All of them are made from the story of the run (`Machine.Story`), and this module tells how
it is found in them again. A line of the log and a row of the trace may show an instruction
(`Text.showsInstruction`). The other lines of the log that tell of a run have openings of their own
(`Log.following`), and the lines that other parts of the toolkit put into the log have none of these
(`Log.IsAside`). So the instructions, the values, the fault and the halt of a story can be read off
its log (`Machine.Story.filter_machineMessages` and the lemmas behind it), and the instructions and
the fault off its trace.
-/

namespace LittleMan

namespace Text

/-- A row that shows an address of two digits, a word of three, and some text. -/
def showsInstruction : Text → Bool
  | a :: b :: ':' :: ' ' :: c :: d :: e :: ' ' :: _ => [a, b, c, d, e].all Char.isDigit
  | _ => false

end Text

namespace Log

/-- The messages of the machine on the level for debugging. -/
def machineMessages (log : List Line) : List Text :=
  (log.filter fun l => l.part = .machine ∧ l.level = .debug).map Line.message

/-- What follows an opening in the messages that have it. -/
def following (opening : Text) (log : List Line) : List Text :=
  log.filterMap fun l => l.message.dropPrefix? opening

end Log

/-! ### Openings -/

namespace Text

/-- Neither of two texts opens the other. -/
def Apart (s t : Text) : Prop :=
  ¬ s <+: t ∧ ¬ t <+: s

instance (s t : Text) : Decidable (Apart s t) :=
  inferInstanceAs (Decidable (¬ s <+: t ∧ ¬ t <+: s))

variable {front opening : Text}

/-- A text does not have an opening if it opens in another way. -/
lemma Apart.dropPrefix?_append (h : Apart front opening) (rest : Text) :
    (front ++ rest).dropPrefix? opening = none := by
  refine Option.eq_none_iff_forall_not_mem.mpr fun rest' hrest => ?_
  obtain ⟨opening', heq, hopening⟩ := List.dropPrefix?_eq_some_iff.mp hrest
  obtain rfl := eq_of_beq hopening
  rcases List.prefix_or_prefix_of_prefix (List.prefix_append front rest)
    ⟨rest', heq.symm⟩ with hfront | hback
  · exact h.1 hfront
  · exact h.2 hback

/-- An opening is dropped. -/
lemma dropPrefix?_opening (opening rest : Text) :
    (opening ++ rest).dropPrefix? opening = some rest :=
  List.dropPrefix?_append_of_beq rest (BEq.refl opening)

/-- No digit opens a text that opens with another character. -/
lemma apart_of_digit {c : Char} (hc : c.isDigit = true)
    (h : opening.head?.map Char.isDigit = some false) : Apart [c] opening := by
  obtain ⟨d, hd, hdigit⟩ := Option.map_eq_some_iff.mp h
  obtain ⟨rest, rfl⟩ := List.head?_eq_some_iff.mp hd
  have hne : c ≠ d := by
    rintro rfl
    rw [hc] at hdigit
    cases hdigit
  exact ⟨fun hpre => hne (List.cons_prefix_cons.mp hpre).1,
    fun hpre => hne (List.cons_prefix_cons.mp hpre).1.symm⟩

/-- A row that shows an instruction opens with a digit. -/
lemma exists_digit_of_showsInstruction {t : Text} (h : showsInstruction t = true) :
    ∃ c rest, t = [c] ++ rest ∧ c.isDigit = true := by
  unfold showsInstruction at h
  split at h
  · next a b c d e rest =>
    exact ⟨a, _, rfl, List.all_eq_true.mp h a List.mem_cons_self⟩
  · cases h

/-- An address is two digits. -/
lemma row_of_isAddress {a : Int} (h : IsAddress a) :
    (zeroPadded 2 a).length = 2 ∧ ∀ c ∈ zeroPadded 2 a, c.isDigit = true :=
  field_of_nonneg (by decide) h.1 (Int.lt_add_one_of_le h.2)

/-- The row of an instruction shows it. -/
lemma showsInstruction_append {a word : Int} (ha : IsAddress a) (hword : IsWord word)
    (rest : Text) :
    showsInstruction (zeroPadded 2 a ++ ": " ++ zeroPadded 3 word ++ ' ' :: rest) = true := by
  obtain ⟨haddress, hleft⟩ := row_of_isAddress ha
  obtain ⟨hlength, hright⟩ := MachineCode.row_of_isWord hword
  obtain ⟨c, d, hcd⟩ := List.length_eq_two.mp haddress
  obtain ⟨e, f, g, hefg⟩ := List.length_eq_three.mp hlength
  rw [hcd] at hleft ⊢
  rw [hefg] at hright ⊢
  have hall : ∀ x ∈ [c, d] ++ [e, f, g], x.isDigit = true :=
    List.forall_mem_append.mpr ⟨hleft, hright⟩
  exact List.all_eq_true.mpr hall

end Text

/-! ### Lines of other parts -/

namespace Log

/-- The openings of lines that tell of a run, but for those of the instructions. -/
def runOpenings : List Text :=
  ["OUT ", "Stopped on error: ", "Program halted after "]

/-- A line that tells nothing of what is done in a run. -/
structure IsAside (l : Line) : Prop where
  not_machine : ¬ (l.part = .machine ∧ l.level = .debug)
  opening : ∀ opening ∈ runOpenings, l.message.dropPrefix? opening = none

/-- A line that opens in another way is one of these, if it is not the machine that debugs. -/
lemma isAside_append {level : Level} {part : Part} (hpart : ¬ (part = .machine ∧ level = .debug))
    {front : Text} (h : ∀ opening ∈ runOpenings, Text.Apart front opening) (rest : Text) :
    IsAside ⟨level, part, front ++ rest⟩ :=
  ⟨hpart, fun opening hopening => (h opening hopening).dropPrefix?_append rest⟩

lemma machineMessages_append (log log' : List Line) :
    machineMessages (log ++ log') = machineMessages log ++ machineMessages log' := by
  unfold machineMessages
  rw [List.filter_append, List.map_append]

/-- Such lines in front of others and behind them do not count. -/
lemma machineMessages_append_asides {front lines back : List Line} (hfront : ∀ l ∈ front, IsAside l)
    (hback : ∀ l ∈ back, IsAside l) :
    machineMessages (front ++ lines ++ back) = machineMessages lines := by
  have hnone : ∀ {asides : List Line}, (∀ l ∈ asides, IsAside l) → machineMessages asides = [] :=
    fun h => List.map_eq_nil_iff.mpr <| List.filter_eq_nil_iff.mpr fun l hl => by
      simpa using (h l hl).not_machine
  rw [machineMessages_append, machineMessages_append, hnone hfront, hnone hback, List.nil_append,
    List.append_nil]

lemma following_append_asides {front lines back : List Line} (hfront : ∀ l ∈ front, IsAside l)
    (hback : ∀ l ∈ back, IsAside l) {opening : Text} (hopening : opening ∈ runOpenings) :
    following opening (front ++ lines ++ back) = following opening lines := by
  have hnone : ∀ {asides : List Line}, (∀ l ∈ asides, IsAside l) →
      (asides.filterMap fun l => l.message.dropPrefix? opening) = [] :=
    fun h => List.filterMap_eq_nil_iff.mpr fun l hl => (h l hl).opening opening hopening
  unfold following
  rw [List.filterMap_append, List.filterMap_append, hnone hfront, hnone hback, List.nil_append,
    List.append_nil]

/-- A line that opens with a digit is one of them. -/
lemma isAside_of_digit {level : Level} {part : Part}
    (hpart : ¬ (part = .machine ∧ level = .debug)) {c : Char} (hc : c.isDigit = true)
    (rest : Text) : IsAside ⟨level, part, [c] ++ rest⟩ := by
  have hletters : ∀ opening ∈ runOpenings, opening.head?.map Char.isDigit = some false := by
    decide
  exact isAside_append hpart (fun opening h => Text.apart_of_digit hc (hletters opening h)) rest

end Log

open Log

namespace Assembly

/-- What the log of an assembly tells of an encoded line opens with its address. -/
lemma isAside_of_encodedLine {message : Text} {e : Entry × Option Int}
    (h : encodedLine? e = some message) : IsAside ⟨.debug, .assembler, message⟩ := by
  unfold encodedLine? at h
  split at h
  · next line statement address word =>
    obtain rfl := Option.some.inj h
    obtain ⟨c, rest, hrow⟩ := List.exists_cons_of_ne_nil (Text.zeroPadded_ne_nil 2 address)
    have hc : c.isDigit = true := by
      refine Text.isDigit_of_mem_zeroPadded 2 address ?_
      rw [hrow]
      exact List.mem_cons_self
    rw [hrow]
    exact isAside_of_digit (by decide) hc _
  · cases h

variable (a : Assembly)

/-- What it tells of an error opens with the name of the pass. -/
lemma isAside_of_errorLine {pass message : Text}
    (hpass : ∀ opening ∈ runOpenings, Text.Apart pass opening) (h : message ∈ a.errorLines pass) :
    IsAside ⟨.debug, .assembler, message⟩ := by
  unfold errorLines at h
  split at h
  · exact absurd h List.not_mem_nil
  · obtain ⟨e, -, rfl⟩ := List.mem_map.mp h
    rw [List.append_assoc]
    exact isAside_append (by decide) hpass _

/-- The log of an assembly tells nothing of a run. -/
lemma isAside_logLines : ∀ l ∈ a.logLines, IsAside l := by
  unfold logLines
  dsimp only
  refine List.forall_mem_append.mpr ⟨List.forall_mem_append.mpr
    ⟨List.forall_mem_cons.mpr ⟨?_, ?_⟩, ?_⟩, ?_⟩
  · rw [List.append_assoc]
    exact isAside_append (by decide) (by decide) _
  · intro l hl
    obtain ⟨label, -, rfl⟩ := List.mem_map.mp hl
    rw [List.append_assoc, List.append_assoc]
    exact isAside_append (by decide) (by decide) _
  · intro l hl
    obtain ⟨message, hmessage, rfl⟩ := List.mem_map.mp hl
    split at hmessage
    · rcases List.mem_append.mp hmessage with hencoded | herror
      · obtain ⟨e, -, he⟩ := List.mem_filterMap.mp hencoded
        exact isAside_of_encodedLine he
      · exact a.isAside_of_errorLine (by decide) herror
    · exact a.isAside_of_errorLine (by decide) hmessage
  · split
    · rw [List.append_assoc, List.append_assoc, List.append_assoc]
      exact List.forall_mem_singleton.mpr (isAside_append (by decide) (by decide) _)
    · exact List.forall_mem_nil _

end Assembly

namespace Command

/-- Neither does what the log tells of a program file. -/
lemma isAside_openingLines (path : Text) : ∀ l ∈ openingLines path, IsAside l := by
  unfold openingLines
  split
  · exact List.forall_mem_singleton.mpr (isAside_append (by decide) (by decide) path)
  · split
    · exact List.forall_mem_singleton.mpr (isAside_append (by decide) (by decide) path)
    · exact List.forall_mem_nil _

lemma isAside_loadProgram (read : Reader) (path : Text) :
    ∀ l ∈ (loadProgram read path).1, IsAside l := by
  have hfile : ∀ l ∈ (assembleFile read path).1, IsAside l := by
    unfold assembleFile
    split
    · exact List.forall_mem_nil _
    · dsimp only
      split <;> exact Assembly.isAside_logLines _
  have hopening := isAside_openingLines path
  unfold loadProgram
  split
  · split
    all_goals
      next h =>
      rw [h] at hfile
      exact List.forall_mem_append.mpr ⟨hopening, hfile⟩
  · split
    · exact hopening
    · exact List.forall_mem_nil _

end Command

/-! ### Rows on one line -/

/-- Assembly text made of a word is on one line. -/
lemma isOneLine_disassemble (word : Int) : Text.IsOneLine (disassemble word) := by
  unfold disassemble
  split
  · next i _ =>
    have hmnemonic : Text.IsOneLine i.mnemonic := by
      cases i <;> dsimp only [Instruction.mnemonic] <;> decide
    unfold Instruction.text
    split
    · exact (hmnemonic.rightpad 4 (by decide)).append (Text.isOneLine_zeroPadded 2 _)
    · exact hmnemonic
  · exact .append (by decide) (Text.isOneLine_zeroPadded 3 word)

/-- So are the registers. -/
lemma Registers.isOneLine_display (r : Registers) : Text.IsOneLine r.display := by
  have hflag : Text.IsOneLine (if r.neg then ['N'] else ['.']) := by
    split <;> decide
  have hpc : Text.IsOneLine ("PC=" ++ Text.zeroPadded 2 r.pc ++ " ACC=") :=
    (Text.IsOneLine.append (by decide) (Text.isOneLine_zeroPadded 2 r.pc)).append (by decide)
  exact ((((hpc.append (Text.isOneLine_zeroPadded 3 r.acc)).append (by decide)).append
    hflag).append (by decide)).append (Text.isOneLine_decimal r.cycles)

/-- So is the row of an instruction. -/
lemma Machine.isOneLine_instructionRow (r : Registers) (word : Int) :
    Text.IsOneLine (instructionRow r word) := by
  have haddress : Text.IsOneLine (Text.zeroPadded 2 r.pc ++ ": ") :=
    (Text.isOneLine_zeroPadded 2 r.pc).append (by decide)
  have hword : Text.IsOneLine (Text.zeroPadded 3 word ++ "  ") :=
    (Text.isOneLine_zeroPadded 3 word).append (by decide)
  have htext := (isOneLine_disassemble word).rightpad 7 (c := ' ') (by decide)
  unfold instructionRow
  rw [List.append_assoc (_ ++ _) (Text.zeroPadded 3 word)]
  exact (((haddress.append hword).append htext).append (by decide)).append r.isOneLine_display

/-! ### The story in the log -/

namespace Machine

namespace Deed

variable (d : Deed)

/-- The message of an instruction. -/
def message : Text :=
  Text.zeroPadded 2 d.registers.pc ++ ": " ++ Text.zeroPadded 3 d.word ++ " " ++ disassemble d.word

/-- The row of an instruction. -/
def row : Text :=
  instructionRow d.registers d.word

/-- The message shows the instruction. -/
lemma showsInstruction_message : Text.showsInstruction d.message = true := by
  unfold message
  rw [List.append_assoc]
  exact Text.showsInstruction_append d.isAddress d.isWord (disassemble d.word)

/-- So does the row. -/
lemma showsInstruction_row : Text.showsInstruction d.row = true := by
  have hrow : d.row = Text.zeroPadded 2 d.registers.pc ++ ": " ++ Text.zeroPadded 3 d.word ++
      ' ' :: (" " ++ (disassemble d.word).rightpad 7 ' ' ++ " " ++ d.registers.display) := by
    unfold row instructionRow
    simp only [List.append_assoc]
    rfl
  rw [hrow]
  exact Text.showsInstruction_append d.isAddress d.isWord _

/-- The message has no opening of another line. -/
lemma dropPrefix?_message {opening : Text} (h : opening ∈ runOpenings) :
    d.message.dropPrefix? opening = none := by
  obtain ⟨c, rest, hmessage, hc⟩ :=
    Text.exists_digit_of_showsInstruction d.showsInstruction_message
  rw [hmessage]
  have haside : IsAside ⟨.info, .machine, [c] ++ rest⟩ := isAside_of_digit (by decide) hc rest
  exact haside.opening opening h

/-- Nothing else that is told of an instruction shows one. -/
lemma filter_machineMessages :
    (machineMessages (d.events.map Event.logLine)).filter Text.showsInstruction = [d.message] := by
  have hvalues : ∀ values : List Int,
      (machineMessages ((values.map Event.wrote).map Event.logLine)).filter
        Text.showsInstruction = [] := by
    intro values
    induction values with
    | nil => rfl
    | cons value values ih => exact ih
  have hmessages : machineMessages (d.events.map Event.logLine) =
      [d.message] ++ machineMessages ((d.written.map Event.wrote).map Event.logLine) := rfl
  rw [hmessages, List.filter_append, hvalues, List.append_nil,
    List.filter_cons_of_pos d.showsInstruction_message, List.filter_nil]

end Deed

/-- The message of a value that was written. -/
def outMessage (value : Int) : Text :=
  "OUT " ++ Text.zeroPadded 3 value

namespace Story

variable (s : Story) (start : Int)

/-- The lines of the log that tell a story that begins after `start` cycles. -/
def logLines : List Log.Line :=
  (s.events start).map Event.logLine

/-- The instructions of the story are those that are told. -/
lemma filter_machineMessages :
    (machineMessages (s.logLines start)).filter Text.showsInstruction =
      s.deeds.map Deed.message := by
  have hlast : (machineMessages [(s.lastEvent start).logLine]).filter Text.showsInstruction =
      [] := by
    unfold lastEvent
    cases s.ending <;> rfl
  have hdeeds : ∀ deeds : List Deed,
      (machineMessages ((deeds.flatMap Deed.events).map Event.logLine)).filter
        Text.showsInstruction = deeds.map Deed.message := by
    intro deeds
    induction deeds with
    | nil => rfl
    | cons d deeds ih =>
      rw [List.flatMap_cons, List.map_append, machineMessages_append, List.filter_append,
        d.filter_machineMessages, ih, List.map_cons, List.singleton_append]
  unfold logLines events
  rw [List.map_append, machineMessages_append, List.filter_append, hdeeds, List.map_singleton,
    hlast, List.append_nil]

/-- What follows an opening in the log of a story follows it in the messages of the values or in the
last message. -/
lemma following_logLines {opening : Text} (h : opening ∈ runOpenings) :
    following opening (s.logLines start) =
      (s.written.filterMap fun value => (outMessage value).dropPrefix? opening) ++
        ((s.lastEvent start).logLine.message.dropPrefix? opening).toList := by
  have hdeed (d : Deed) :
      (d.events.filterMap fun e => e.logLine.message.dropPrefix? opening) =
        d.written.filterMap fun value => (outMessage value).dropPrefix? opening := by
    have hfetched : (Event.fetched d.registers.pc d.word).logLine.message.dropPrefix? opening =
        none := d.dropPrefix?_message h
    unfold Deed.events
    rw [List.filterMap_cons, hfetched, List.filterMap_map]
    rfl
  unfold following logLines events written
  rw [List.filterMap_map, List.filterMap_append, List.filterMap_flatMap, List.filterMap_flatMap]
  simp only [Function.comp_def, hdeed, List.filterMap_cons, List.filterMap_nil]
  cases (s.lastEvent start).logLine.message.dropPrefix? opening <;> rfl

/-- The values written in the story are those that are told. -/
lemma following_out : following "OUT " (s.logLines start) = s.written.map (Text.zeroPadded 3) := by
  have hlast : (s.lastEvent start).logLine.message.dropPrefix? "OUT " = none := by
    unfold lastEvent
    cases s.ending <;> rfl
  rw [s.following_logLines start (by decide), hlast, Option.toList_none, List.append_nil]
  unfold outMessage
  simp only [Text.dropPrefix?_opening]
  exact congrFun List.filterMap_eq_map s.written

/-- No value is told with the opening of another line. -/
lemma following_of_apart {opening : Text} (h : opening ∈ runOpenings)
    (hapart : Text.Apart "OUT " opening) : following opening (s.logLines start) =
      ((s.lastEvent start).logLine.message.dropPrefix? opening).toList := by
  have hnone : (s.written.filterMap fun value => (outMessage value).dropPrefix? opening) = [] :=
    List.filterMap_eq_nil_iff.mpr fun value _ => hapart.dropPrefix?_append _
  rw [s.following_logLines start h, hnone, List.nil_append]

/-- The fault of the story is the one that is told. -/
lemma following_stopped :
    following "Stopped on error: " (s.logLines start) = s.fault?.toList.map Fault.message := by
  rw [s.following_of_apart start (by decide) (by decide)]
  unfold lastEvent fault?
  cases s.ending with
  | halted => rfl
  | exhausted => rfl
  | failed f =>
    dsimp only [Event.logLine]
    rw [Text.dropPrefix?_opening]
    rfl

/-- A halt is told with the number of the instructions. -/
lemma following_halted : following "Program halted after " (s.logLines start) =
    match s.ending with
    | .halted => [Text.decimal (start + s.deeds.length) ++ " cycles"]
    | .exhausted _ | .failed _ => [] := by
  rw [s.following_of_apart start (by decide) (by decide)]
  unfold lastEvent
  cases s.ending with
  | halted =>
    dsimp only [Event.logLine]
    rw [List.append_assoc, Text.dropPrefix?_opening]
    rfl
  | exhausted => rfl
  | failed => rfl

/-! ### The story in the trace -/

/-- The rows of the trace that tell a story. -/
def rows : List Text :=
  s.entries.map TraceEntry.row

/-- They show the instructions, and then the fault if there is one. -/
lemma rows_eq : s.rows = s.deeds.map Deed.row ++
    s.fault?.toList.map fun f => ("  ERROR: " : Text) ++ f.message := by
  unfold rows entries
  rw [List.map_append, List.map_map, List.map_map]
  rfl

/-- The instructions of the story are those that are shown. -/
lemma filter_rows : s.rows.filter Text.showsInstruction = s.deeds.map Deed.row := by
  have hfault : (s.fault?.toList.map fun f => ("  ERROR: " : Text) ++ f.message).filter
      Text.showsInstruction = [] := by
    cases s.fault? <;> rfl
  rw [s.rows_eq, List.filter_append, hfault, List.append_nil]
  refine List.filter_eq_self.mpr fun row hrow => ?_
  obtain ⟨d, -, rfl⟩ := List.mem_map.mp hrow
  exact d.showsInstruction_row

/-- The fault of the story is the one in the last row. -/
lemma getLast?_rows (message : Text) : s.rows.getLast? = some ("  ERROR: " ++ message) ↔
    message ∈ s.fault?.toList.map Fault.message := by
  rw [s.rows_eq]
  cases s.fault? with
  | none =>
    refine iff_of_false (fun hlast => ?_) List.not_mem_nil
    have hrow := List.mem_of_getLast? hlast
    rw [Option.toList_none, List.map_nil, List.append_nil] at hrow
    obtain ⟨d, -, heq⟩ := List.mem_map.mp hrow
    have hshows := d.showsInstruction_row
    rw [heq] at hshows
    cases hshows
  | some f =>
    rw [Option.toList_some, List.map_singleton, List.map_singleton, List.getLast?_concat,
      List.mem_singleton, Option.some_inj, List.append_cancel_left_eq]
    exact eq_comm

/-- The rows are on one line each, if the message of the fault is. -/
lemma isOneLine_rows (h : ∀ f ∈ s.fault?, Text.IsOneLine f.message) :
    ∀ row ∈ s.rows, Text.IsOneLine row := by
  rw [s.rows_eq]
  refine List.forall_mem_append.mpr ⟨fun row hrow => ?_, fun row hrow => ?_⟩
  · obtain ⟨d, -, rfl⟩ := List.mem_map.mp hrow
    exact isOneLine_instructionRow d.registers d.word
  · obtain ⟨f, hf, rfl⟩ := List.mem_map.mp hrow
    exact .append (by decide) (h f (Option.mem_toList.mp hf))

/-- No row is empty. -/
lemma ne_nil_of_mem_rows : ∀ row ∈ s.rows, row ≠ [] := by
  rw [s.rows_eq]
  refine List.forall_mem_append.mpr ⟨fun row hrow => ?_, fun row hrow => ?_⟩
  · obtain ⟨d, -, rfl⟩ := List.mem_map.mp hrow
    have hshows := d.showsInstruction_row
    intro heq
    rw [heq] at hshows
    cases hshows
  · obtain ⟨f, -, rfl⟩ := List.mem_map.mp hrow
    exact List.append_ne_nil_of_left_ne_nil (by decide) _

/-! ### The story in the report -/

/-- The exit code. -/
def exit : Nat :=
  match s.ending with
  | .halted => Command.exitOk
  | .exhausted _ => Command.exitTimeout
  | .failed _ => Command.exitError

/-- The rows that the console shows behind the trace. -/
def closing (budget : Nat) : List Text :=
  match s.ending with
  | .halted => []
  | .exhausted _ => ["Cycle budget exceeded: no HLT within " ++ Text.decimal budget ++ " cycles"]
  | .failed f => [f.kind.name ++ ": " ++ f.message]

lemma length_closing_le (budget : Nat) : (s.closing budget).length ≤ 1 := by
  unfold closing
  cases s.ending with
  | halted => exact Nat.zero_le 1
  | exhausted pc => exact le_rfl
  | failed f => exact le_rfl

end Story

end Machine

end LittleMan
