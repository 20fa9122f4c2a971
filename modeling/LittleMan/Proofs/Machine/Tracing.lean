import LittleMan.Proofs.Machine.Lockstep
import LittleMan.Proofs.Machine.Reports

/-!
# Tracing

A trace watches a machine and does not touch it. The machine that has no trace at all
(`Machine.untraced`) is made by a change that a step does not see, so machines that differ at most
in their traces (`SameButTrace`) make the same runs, whichever of them keeps one
(`SameButTrace.run`).

What is written while a trace is kept follows the step. An instruction is shown when its word has
been fetched and decoded, with the registers as they were before, and a fault of the machine's own
kinds is shown behind it (`traceLines_step`). So the completed instructions of a run are shown one
by one (`Completes.traceLines`), and of a failing instruction as much is shown as could be read
(`attemptRow?`). An exception that a watcher raises passes without a row. Without a trace nothing is
written (`trace_run_of_not_tracing`).

The two sides are put together in `run_traced`. It goes for programs too: what they come to does not
depend on the trace (`runProgram_withTracing`).
-/

namespace LittleMan

namespace Machine

/-! ### With and without a trace -/

/-- The machine with tracing switched on or off. -/
def withTracing (m : Machine) (on : Bool) : Machine :=
  { m with tracing := on }

/-- The machine without a trace. -/
def untraced (m : Machine) : Machine :=
  { m with tracing := false, trace := #[] }

/-- The machines differ at most in their traces and in whether a trace is kept. -/
def SameButTrace (m m' : Machine) : Prop :=
  { m with tracing := m'.tracing, trace := m'.trace } = m'

section

variable {m m' : Machine}

/-- Such machines are the same without their traces. -/
lemma sameButTrace_iff : SameButTrace m m' ↔ m.untraced = m'.untraced := by
  unfold SameButTrace untraced
  constructor
  · intro h
    rw [← h]
  · intro h
    simp only [Machine.mk.injEq, true_and] at h
    obtain ⟨hregisters, hmemory, hinput, houtput, hsightings, hevents⟩ := h
    rw [hregisters, hmemory, hinput, houtput, hsightings, hevents]

/-- Switching tracing on or off makes no other difference. -/
lemma sameButTrace_withTracing (m : Machine) (on off : Bool) :
    SameButTrace (m.withTracing on) (m.withTracing off) := rfl

lemma SameButTrace.registers (h : SameButTrace m m') : m.registers = m'.registers := by
  unfold SameButTrace at h
  rw [← h]

lemma SameButTrace.memory (h : SameButTrace m m') : m.memory = m'.memory := by
  unfold SameButTrace at h
  rw [← h]

lemma SameButTrace.outputs (h : SameButTrace m m') : m.outputs = m'.outputs := by
  unfold SameButTrace at h
  rw [← h]
  rfl

/-- A step does not see the trace. -/
lemma isUnseen_untraced : IsUnseen untraced where
  registers m := rfl
  memory m := rfl
  withRegisters m registers := rfl
  withStored m memory calls := rfl
  withOutput m value := rfl
  tell m e := by
    have hoff : m.untraced.tell e = m.untraced := if_neg Bool.false_ne_true
    rw [hoff]
    unfold tell
    split <;> rfl
  note m e := rfl

/-- Nor does it when it takes an input. -/
lemma takesThrough_untraced (m : Machine) : TakesThrough untraced m :=
  isUnseen_untraced.isUnread.performsThrough_inp rfl fun _ => rfl

/-- A step without a trace is the same step. -/
lemma step_untraced (m : Machine) : m.untraced.step = (m.step.1.untraced, m.step.2) :=
  isUnseen_untraced.step fun word _ _ _ => takesThrough_untraced (m.fetched word)

/-- Machines that differ at most in their traces make the same step. -/
theorem SameButTrace.step (h : SameButTrace m m') :
    SameButTrace m.step.1 m'.step.1 ∧ m.step.2 = m'.step.2 := by
  rw [sameButTrace_iff] at h ⊢
  have hstep := m.step_untraced
  rw [h, m'.step_untraced] at hstep
  obtain ⟨hafter, houtcome⟩ := Prod.mk.inj hstep
  exact ⟨hafter.symm, houtcome.symm⟩

/-- They run in lockstep. -/
lemma isLockstep_sameButTrace : IsLockstep (fun _ => False) SameButTrace where
  registers _ _ h := h.registers
  note _ _ _ h := by
    unfold SameButTrace at h
    rw [← h]
    rfl
  step _ _ h _ := h.step

/-- They make the same runs. -/
theorem SameButTrace.run (h : SameButTrace m m') (budget : Int) :
    SameButTrace (m.run budget).1 (m'.run budget).1 ∧ (m.run budget).2 = (m'.run budget).2 :=
  isLockstep_sameButTrace.run h budget fun _ _ => id

end

/-! ### What is written -/

/-- The trace row by row. -/
def traceLines (m : Machine) : List Text :=
  m.trace.toList.map TraceEntry.row

/-- The row of an instruction: its mailbox, its word, the word as assembly text, and the registers
before it. -/
def instructionRow (r : Registers) (word : Int) : Text :=
  Text.zeroPadded 2 r.pc ++ ": " ++ Text.zeroPadded 3 word ++ "  " ++
    (disassemble word).rightpad 7 ' ' ++ " " ++ r.display

/-- The row of the instruction that a machine is about to execute, if a word can be fetched and
carries an instruction. -/
def attemptRow? (m : Machine) : Option Text :=
  match m.memory.read m.registers.pc with
  | .error _ => none
  | .ok word =>
    if (Instruction.decode? word).isSome then some (instructionRow m.registers word) else none

/-- The row of a fault, if there is one of the machine's own kinds. -/
def faultRow? : Except Fault (Option Stop) → Option Text
  | .error f => if f.isOwn then some ("  ERROR: " ++ f.message) else none
  | .ok _ => none

/-- The rows show the first `k` instructions that a machine completes, each with the registers as
they were before it. -/
structure Shows (m : Machine) (k : Nat) (rows : List Text) : Prop where
  length_eq : rows.length = k
  row : ∀ (i : Nat) (row : Text), rows[i]? = some row → ∃ before word, Completes m i before ∧
    before.memory.read before.registers.pc = .ok word ∧ row = instructionRow before.registers word

/-- The rows that a run with a trace adds to it. -/
inductive Tells (m : Machine) : Except Error Run → List Text → Prop where
  /-- The completed instructions are shown. -/
  | ended (r : Run) (after : Machine) (rows : List Text) (completes : Completes m r.executed after)
      (shows : Shows m r.executed rows) : Tells m (.ok r) rows
  /-- Behind them the instruction that failed is shown, if it could be read, and then its fault,
  with its place. -/
  | failed (k : Nat) (before failed : Machine) (f : Fault) (rows : List Text)
      (completes : Completes m k before) (shows : Shows m k rows)
      (step : before.step = (failed, .error f)) (own : f.kind.isOwn = true)
      (address : f.address = some before.registers.pc)
      (cycle : f.cycle = some (before.registers.cycles + 1)) :
      Tells m (.error (.fault f))
        (rows ++ (attemptRow? before).toList ++ ["  ERROR: " ++ f.message])
  /-- What is none of the machine's own kinds is not shown. -/
  | interrupted (k : Nat) (before failed : Machine) (f : Fault) (rows : List Text)
      (completes : Completes m k before) (shows : Shows m k rows)
      (step : before.step = (failed, .error f)) (foreign : f.kind.isOwn = false) :
      Tells m (.error (.fault f)) (rows ++ (attemptRow? before).toList)
  /-- A run that is refused is not shown. -/
  | refused (budget : Int) : Tells m (.error (.negativeBudget budget)) []

section

variable {m next after : Machine} {k : Nat}

/-- The rows depend on the trace only. -/
lemma traceLines_congr (h : next.trace = m.trace) : next.traceLines = m.traceLines :=
  congrArg (fun entries => entries.toList.map TraceEntry.row) h

/-- While a trace is kept, what is told becomes its last row. -/
lemma traceLines_tell (h : m.tracing = true) (e : TraceEntry) :
    (m.tell e).traceLines = m.traceLines ++ [e.row] := by
  unfold tell traceLines
  rw [if_pos h]
  simp

@[simp] lemma tell_tracing (m : Machine) (e : TraceEntry) : (m.tell e).tracing = m.tracing := by
  unfold tell; split <;> rfl

/-- An instruction writes nothing to the trace. -/
lemma trace_perform (m : Machine) (i : Instruction) :
    (m.perform i).1.trace = m.trace ∧ (m.perform i).1.tracing = m.tracing := by
  have hcases := m.perform_cases i
  generalize m.perform i = r at hcases
  cases hcases with
  | sub a word read =>
    unfold setDifference
    split <;> exact ⟨rfl, rfl⟩
  | _ => exact ⟨rfl, rfl⟩

/-- Neither does the end of a completed instruction. -/
lemma trace_complete (m : Machine) (cycle : Int) :
    (m.complete cycle).1.trace = m.trace ∧ (m.complete cycle).1.tracing = m.tracing := by
  unfold complete
  split <;> exact ⟨rfl, rfl⟩

/-- A fault of the machine's own kinds is the last row of the trace. -/
lemma traceLines_fail (h : m.tracing = true) (address cycle : Int) (cause : Fault.Cause) :
    (m.fail address cycle cause).1.traceLines =
        m.traceLines ++ (faultRow? (m.fail address cycle cause).2).toList ∧
      (m.fail address cycle cause).1.tracing = true := by
  unfold fail tellFault faultRow?
  dsimp only
  split
  · exact ⟨traceLines_tell h _, (tell_tracing m _).trans h⟩
  · exact ⟨(List.append_nil _).symm, h⟩

/-- A machine about to execute the instruction of a word has shown it. -/
lemma traceLines_fetched (h : m.tracing = true) (word : Int) :
    (m.fetched word).traceLines = m.traceLines ++ [instructionRow m.registers word] ∧
      (m.fetched word).tracing = true :=
  ⟨traceLines_tell (m := m.advanced) h _, (tell_tracing m.advanced _).trans h⟩

/-- The row of a machine whose next instruction can be read. -/
lemma attemptRow?_of_decode {word : Int} {i : Instruction}
    (read : m.memory.read m.registers.pc = .ok word) (decode : Instruction.decode? word = some i) :
    attemptRow? m = some (instructionRow m.registers word) := by
  simp [attemptRow?, read, decode]

/-- The effect of an instruction does not change what is shown. -/
lemma traceLines_performed {word : Int} {i : Instruction} {cause : Option Fault.Cause}
    (h : m.tracing = true) (read : m.memory.read m.registers.pc = .ok word)
    (decode : Instruction.decode? word = some i)
    (perform : (m.fetched word).perform i = (after, cause)) :
    after.traceLines = m.traceLines ++ (attemptRow? m).toList ∧ after.tracing = true := by
  obtain ⟨htrace, htracing⟩ := (m.fetched word).trace_perform i
  rw [perform] at htrace htracing
  obtain ⟨hlines, hfetched⟩ := traceLines_fetched h word
  rw [traceLines_congr htrace, hlines, attemptRow?_of_decode read decode, Option.toList_some]
  exact ⟨rfl, htracing.trans hfetched⟩

/-- An instruction is shown before it is executed, as far as it can be read, and a fault is shown
behind it. -/
theorem traceLines_step (h : m.tracing = true) (running : m.registers.halted = false) :
    m.step.1.traceLines =
        m.traceLines ++ (attemptRow? m).toList ++ (faultRow? m.step.2).toList ∧
      m.step.1.tracing = true := by
  have hcases := m.step_cases
  generalize m.step = ended at hcases
  cases hcases with
  | halted halted =>
    rw [running] at halted
    cases halted
  | unfetched cause running read =>
    have hrow : attemptRow? m = none := by simp only [attemptRow?, read]
    rw [hrow, Option.toList_none, List.append_nil]
    exact traceLines_fail h _ _ _
  | undecoded word running read decode =>
    have hrow : attemptRow? m = none := by simp [attemptRow?, read, decode]
    rw [hrow, Option.toList_none, List.append_nil]
    exact traceLines_fail (m := m.advanced) h _ _ _
  | failed word i after cause running read decode perform =>
    obtain ⟨hlines, htracing⟩ := traceLines_performed h read decode perform
    rw [← hlines]
    exact traceLines_fail htracing _ _ _
  | completed word i after running read decode perform =>
    obtain ⟨hlines, htracing⟩ := traceLines_performed h read decode perform
    obtain ⟨htrace, htracing'⟩ := after.trace_complete (m.registers.cycles + 1)
    rw [complete_stop, ← hlines]
    refine ⟨?_, htracing'.trans htracing⟩
    exact (traceLines_congr htrace).trans (List.append_nil _).symm

/-- A completed instruction could be read. -/
lemma attemptRow?_of_step_ok {stop : Option Stop} (running : m.registers.halted = false)
    (step : m.step = (next, .ok stop)) : ∃ word, m.memory.read m.registers.pc = .ok word ∧
      attemptRow? m = some (instructionRow m.registers word) := by
  have hcases := m.step_cases
  rw [step] at hcases
  generalize hended : (next, Except.ok stop) = ended at hcases
  cases hcases with
  | halted halted =>
    rw [running] at halted
    cases halted
  | unfetched => cases (Prod.mk.inj hended).2
  | undecoded => cases (Prod.mk.inj hended).2
  | failed => cases (Prod.mk.inj hended).2
  | completed word i after running read decode perform =>
    exact ⟨word, read, attemptRow?_of_decode read decode⟩

/-- Completed instructions are shown one by one. -/
theorem Completes.traceLines (way : Completes m k after) (h : m.tracing = true) :
    ∃ rows, after.traceLines = m.traceLines ++ rows ∧ Shows m k rows ∧ after.tracing = true := by
  induction way with
  | none m => exact ⟨[], (List.append_nil _).symm, ⟨rfl, fun i row hrow => by simp at hrow⟩, h⟩
  | @cons m next after k stop running step rest ih =>
    obtain ⟨word, hread, hattempt⟩ := attemptRow?_of_step_ok running step
    obtain ⟨hlines, htracing⟩ := traceLines_step h running
    rw [step, hattempt] at hlines
    rw [step] at htracing
    obtain ⟨rows, hafter, hshows, hafter'⟩ := ih htracing
    refine ⟨instructionRow m.registers word :: rows, ?_, ⟨?_, fun i row hrow => ?_⟩, hafter'⟩
    · rw [hafter, hlines]
      simp [faultRow?]
    · rw [List.length_cons, hshows.length_eq]
    · cases i with
      | zero => exact ⟨m, word, .none m, hread, (Option.some.inj hrow).symm⟩
      | succ i =>
        obtain ⟨before, word', hway, hread', hrow'⟩ := hshows.row i row hrow
        exact ⟨before, word', .cons stop running step hway, hread', hrow'⟩

/-! ### Runs -/

/-- Every number that can come up in a trace of a run can be written: those in the registers before
the run, and the count of cycles at the end of the budget. -/
structure IsShowable (m : Machine) (budget : Int) : Prop extends IsWritten m where
  cycles : Text.isWritable m.registers.cycles = true
  cycles_end : Text.isWritable (m.registers.cycles + budget.toNat) = true

/-- A run with a trace adds the rows that tell of it. -/
theorem exists_tells_of_run (h : m.tracing = true) (budget : Int) (hshows : m.IsShowable budget) :
    ∃ rows, (m.run budget).1.traceLines = m.traceLines ++ rows ∧ Tells m (m.run budget).2 rows := by
  rcases Int.lt_or_le budget 0 with hneg | hbudget
  · rw [run_of_neg m hneg]
    exact ⟨[], (List.append_nil _).symm, .refused budget⟩
  · obtain ⟨n, rfl⟩ := Int.eq_ofNat_of_zero_le hbudget
    rw [run_ofNat]
    have hcases := m.run_cases n
    generalize m.runFor n = ended at hcases
    cases hcases with
    | halt k after le completes halted =>
      obtain ⟨rows, hafter, hshows, -⟩ := completes.traceLines h
      exact ⟨rows, hafter, .ended ⟨.halt, k⟩ after rows completes hshows⟩
    | timeout after completes running =>
      obtain ⟨rows, hafter, hshows, -⟩ := completes.traceLines h
      exact ⟨rows, hafter, .ended ⟨.timeout, n⟩ after rows completes hshows⟩
    | fault k before failed f lt completes step =>
      obtain ⟨rows, hbefore, hrows, htracing⟩ := completes.traceLines h
      have herror : before.step.2 = .error f := by rw [step]
      obtain ⟨hlocated, running⟩ := ofCause_of_step_error herror
      obtain ⟨hlines, -⟩ := traceLines_step htracing running
      rw [step, hbefore] at hlines
      have hown : f.isOwn = f.kind.isOwn := by
        have hend := hshows.cycles_end
        rw [Int.toNat_natCast] at hend
        exact hshows.toIsWritten.isOwn_of_completes hshows.cycles hend lt completes herror
      unfold faultRow? at hlines
      dsimp only at hlines
      rw [hown] at hlines
      cases hkind : f.kind.isOwn with
      | true =>
        rw [hkind, if_pos rfl, Option.toList_some] at hlines
        rw [Fault.ofCause_of_isOwn _ _ (Fault.isOwn_cause (hown.trans hkind))] at hlocated
        refine ⟨_, ?_, .failed k before failed f rows completes hrows step hkind
          (congrArg Fault.address hlocated) (congrArg Fault.cycle hlocated)⟩
        rw [← List.append_assoc, ← List.append_assoc]
        exact hlines
      | false =>
        rw [hkind, if_neg Bool.false_ne_true, Option.toList_none, List.append_nil] at hlines
        refine ⟨_, ?_, .interrupted k before failed f rows completes hrows step hkind⟩
        rw [← List.append_assoc]
        exact hlines

/-- A run without a trace writes nothing. -/
lemma trace_run_of_not_tracing (h : m.tracing = false) (budget : Int) :
    (m.run budget).1.trace = m.trace := by
  let P (now : Machine) : Prop := now.tracing = false ∧ now.trace = m.trace
  have htell : ∀ now e, P now → P (now.tell e) := by
    rintro now e ⟨htracing, htrace⟩
    have hsame : now.tell e = now := by
      unfold tell
      rw [if_neg (by simp [htracing])]
    rw [hsame]
    exact ⟨htracing, htrace⟩
  have hperform : ∀ now i, P now → P (now.perform i).1 := by
    rintro now i ⟨htracing, htrace⟩
    obtain ⟨htrace', htracing'⟩ := now.trace_perform i
    exact ⟨htracing'.trans htracing, htrace'.trans htrace⟩
  have hstep : ∀ now, P now → P now.step.1 := fun now hP =>
    step_induction htell (fun _ _ hP => hP) (fun _ hP => hP) (fun now i _ => hperform now i)
      (fun _ hP => hP) hP
  exact (run_induction hstep (fun _ _ hP => hP) budget (m := m) ⟨h, rfl⟩).2

end

/-! ### Programs -/

section

variable (m : Machine) (on off : Bool) (image inputs : List Datum)

/-- An image is loaded in the same way with and without a trace. -/
lemma load_withTracing : (m.withTracing on).load image =
    (m.load image).map fun loaded => loaded.withTracing on := by
  unfold load withTracing
  dsimp only
  cases m.memory.load image <;> rfl

/-- So are inputs put on the tray. -/
lemma inject_withTracing : (m.withTracing on).inject inputs =
    (m.inject inputs).map fun ready => ready.withTracing on := by
  unfold inject withTracing
  dsimp only
  cases m.input.inject inputs <;> rfl

/-- A program comes to the same whether a trace is kept or not. -/
theorem runProgram_withTracing (budget : Int) :
    SameButTrace ((m.withTracing on).runProgram image inputs budget).1
        ((m.withTracing off).runProgram image inputs budget).1 ∧
      ((m.withTracing on).runProgram image inputs budget).2 =
        ((m.withTracing off).runProgram image inputs budget).2 := by
  unfold runProgram
  rw [load_withTracing, load_withTracing]
  cases m.load image with
  | error f => exact ⟨rfl, rfl⟩
  | ok loaded =>
    dsimp only [Except.map]
    rw [inject_withTracing, inject_withTracing]
    cases loaded.inject inputs with
    | error f => exact ⟨rfl, rfl⟩
    | ok ready => exact (ready.sameButTrace_withTracing on off).run budget

end

/-- Tracing is a faithful observer. As long as the registers can be shown, runs with and without a
trace come to the same result or error and leave machines that differ only in their traces. With a
trace the run adds a row for each completed instruction, with the registers before it, and, if it
fails, the row of the failing instruction, unless that could not be fetched or decoded, and, if the
fault is one of the machine's own kinds, the row of the fault. Without a trace it adds nothing. -/
theorem run_traced {m : Machine} {budget : Int} (h : m.IsShowable budget) :
    ((m.withTracing true).run budget).2 = ((m.withTracing false).run budget).2 ∧
      SameButTrace ((m.withTracing true).run budget).1 ((m.withTracing false).run budget).1 ∧
      (∃ rows, ((m.withTracing true).run budget).1.traceLines = m.traceLines ++ rows ∧
        Tells (m.withTracing true) ((m.withTracing true).run budget).2 rows) ∧
      ((m.withTracing false).run budget).1.trace = m.trace := by
  obtain ⟨hmachine, houtcome⟩ := (m.sameButTrace_withTracing true false).run budget
  have hshows : (m.withTracing true).IsShowable budget :=
    ⟨⟨⟨h.memory, h.pending⟩, h.acc, h.pc⟩, h.cycles, h.cycles_end⟩
  exact ⟨houtcome, hmachine, exists_tells_of_run rfl budget hshows,
    trace_run_of_not_tracing rfl budget⟩

/-- A machine that asks for an input and has none. -/
def starving : Machine :=
  session {} [.load [.integer 901]]

/-- What the trace of its run tells. -/
theorem run_traced_starving : ∃ rows,
    ((starving.withTracing true).run 5).1.traceLines = starving.traceLines ++ rows ∧
      Tells (starving.withTracing true) ((starving.withTracing true).run 5).2 rows :=
  have hshowable : starving.IsShowable 5 :=
    ⟨⟨⟨⟨by decide, by decide⟩, by decide⟩, by decide, by decide⟩, by decide, by decide⟩
  (run_traced hshowable).2.2.1

/-- A machine that keeps a trace and is about to store a word, and a watcher who raises an exception
of its own. -/
def interrupted : Machine :=
  (session {} [.load [.integer 399],
    .watch 99 ⟨"guard", fun _ _ _ => some (.exception "KeyError" "99")⟩]).withTracing true

/-- Its run fails, and no row tells the fault. -/
theorem exists_fault_without_row :
    (∃ f, (interrupted.run 1).2 = .error (.fault f)) ∧ interrupted.traceLines = [] ∧
      ∀ row ∈ (interrupted.run 1).1.traceLines, ¬ (("  ERROR: " : Text) <+: row) := by
  refine ⟨⟨_, rfl⟩, rfl, ?_⟩
  decide

end Machine

end LittleMan
