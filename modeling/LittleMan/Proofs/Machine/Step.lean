import LittleMan.Machine.Step
import LittleMan.Proofs.Memory

/-!
# What a step can do

Every statement about steps is a case distinction, and this module makes it once. `step_cases` lists
the five ways in which a step ends: on a halted machine, in the fetch, in the decoder, in the
instruction, or with the instruction completed. `perform_cases` does the same for the effect of an
instruction. Later proofs take these lists apart and never unfold the step itself.

The records that a machine keeps of its doings have no effect on it; the lemmas on `tell`, `note`,
`fail` and `complete` say which parts of a machine they leave alone.
-/

namespace LittleMan

/-! ### Places of faults -/

namespace Fault

section

variable (cause : Cause) (address cycle : Int)

@[simp] lemma cause_ofCause : (ofCause cause address cycle).cause = cause := by
  unfold ofCause; split <;> rfl

@[simp] lemma kind_ofCause : (ofCause cause address cycle).kind = cause.kind :=
  congrArg Cause.kind (cause_ofCause cause address cycle)

variable {cause}

/-- A fault of the machine's own kinds has its place. -/
lemma ofCause_of_isOwn (h : cause.isOwn = true) :
    ofCause cause address cycle = ⟨cause, some address, some cycle⟩ :=
  if_pos h

/-- If a fault is reported as one of the machine's own kinds, so is its cause. -/
lemma isOwn_cause {f : Fault} (h : f.isOwn = true) : f.cause.isOwn = true := by
  unfold isOwn isWritable at h
  unfold Cause.isOwn
  simp only [Bool.and_eq_true] at h ⊢
  exact ⟨h.1, h.2.1.1⟩

end

end Fault

namespace Machine

/-! ### The records -/

section

variable (m : Machine) (e : TraceEntry)

@[simp] lemma tell_registers : (m.tell e).registers = m.registers := by
  unfold tell; split <;> rfl

@[simp] lemma tell_memory : (m.tell e).memory = m.memory := by
  unfold tell; split <;> rfl

@[simp] lemma tell_input : (m.tell e).input = m.input := by
  unfold tell; split <;> rfl

@[simp] lemma tell_output : (m.tell e).output = m.output := by
  unfold tell; split <;> rfl

@[simp] lemma tell_sightings : (m.tell e).sightings = m.sightings := by
  unfold tell; split <;> rfl

end

section

variable (m : Machine) (e : Event)

@[simp] lemma note_registers : (m.note e).registers = m.registers := rfl

@[simp] lemma note_memory : (m.note e).memory = m.memory := rfl

@[simp] lemma note_input : (m.note e).input = m.input := rfl

@[simp] lemma note_output : (m.note e).output = m.output := rfl

@[simp] lemma note_sightings : (m.note e).sightings = m.sightings := rfl

end

/-! ### Taking a difference -/

section

variable (m : Machine) (raw : Int)

/-- A difference sets the accumulator and the negative flag, and nothing else. -/
@[simp] lemma setDifference_registers : (m.setDifference raw).registers =
    { m.registers with
      acc := if raw < 0 then (raw + 1000) % 1000 else raw
      neg := decide (raw < 0) } := by
  unfold setDifference
  split
  · next h => simp [h]
  · next h => simp [h]

@[simp] lemma setDifference_memory : (m.setDifference raw).memory = m.memory := by
  unfold setDifference; split <;> rfl

@[simp] lemma setDifference_input : (m.setDifference raw).input = m.input := by
  unfold setDifference; split <;> rfl

@[simp] lemma setDifference_output : (m.setDifference raw).output = m.output := by
  unfold setDifference; split <;> rfl

@[simp] lemma setDifference_sightings : (m.setDifference raw).sightings = m.sightings := by
  unfold setDifference; split <;> rfl

end

/-! ### Failing and completing -/

section

variable (m : Machine) (f : Fault)

@[simp] lemma tellFault_registers : (m.tellFault f).registers = m.registers := by
  unfold tellFault; split <;> simp

@[simp] lemma tellFault_memory : (m.tellFault f).memory = m.memory := by
  unfold tellFault; split <;> simp

@[simp] lemma tellFault_input : (m.tellFault f).input = m.input := by
  unfold tellFault; split <;> simp

@[simp] lemma tellFault_output : (m.tellFault f).output = m.output := by
  unfold tellFault; split <;> simp

@[simp] lemma tellFault_sightings : (m.tellFault f).sightings = m.sightings := by
  unfold tellFault; split <;> simp

end

section

variable (m : Machine) (address cycle : Int) (cause : Fault.Cause)

@[simp] lemma fail_registers : (m.fail address cycle cause).1.registers = m.registers := by
  simp [fail]

@[simp] lemma fail_memory : (m.fail address cycle cause).1.memory = m.memory := by
  simp [fail]

@[simp] lemma fail_input : (m.fail address cycle cause).1.input = m.input := by
  simp [fail]

@[simp] lemma fail_output : (m.fail address cycle cause).1.output = m.output := by
  simp [fail]

@[simp] lemma fail_sightings : (m.fail address cycle cause).1.sightings = m.sightings := by
  simp [fail]

@[simp] lemma complete_registers :
    (m.complete cycle).1.registers = { m.registers with cycles := cycle } := by
  unfold complete; split <;> rfl

@[simp] lemma complete_memory : (m.complete cycle).1.memory = m.memory := by
  unfold complete; split <;> rfl

@[simp] lemma complete_input : (m.complete cycle).1.input = m.input := by
  unfold complete; split <;> rfl

@[simp] lemma complete_output : (m.complete cycle).1.output = m.output := by
  unfold complete; split <;> rfl

@[simp] lemma complete_sightings : (m.complete cycle).1.sightings = m.sightings := by
  unfold complete; split <;> rfl

/-- A completed step stops if the machine has halted. -/
@[simp] lemma complete_stop :
    (m.complete cycle).2 = .ok (if m.registers.halted then some .halt else none) := by
  unfold complete; split <;> rfl

end

/-! ### The effect of an instruction -/

/-- Everything that an instruction can do. -/
inductive PerformCases (m : Machine) : Instruction → Machine × Option Fault.Cause → Prop where
  | hlt : PerformCases m .hlt ({ m with registers := { m.registers with halted := true } }, none)
  | add (a word : Int) (read : m.memory.read a = .ok word) :
      PerformCases m (.add a) (m.setAcc ((m.registers.acc + word) % 1000), none)
  | sub (a word : Int) (read : m.memory.read a = .ok word) :
      PerformCases m (.sub a) (m.setDifference (m.registers.acc - word), none)
  | lda (a word : Int) (read : m.memory.read a = .ok word) :
      PerformCases m (.lda a) (m.setAcc word, none)
  /-- A mailbox could not be read. -/
  | unread (i : Instruction) (a : Int) (cause : Fault.Cause) (reads : i.operand? = some a)
      (read : m.memory.read a = .error cause) : PerformCases m i (m, some cause)
  | sto (a : Int) (calls : List Sighting) (memory : Memory)
      (write : m.memory.write a m.registers.acc = (calls, .ok memory)) :
      PerformCases m (.sto a) ({ m with memory, sightings := m.sightings ++ calls }, none)
  /-- A mailbox could not be written. -/
  | unwritten (a : Int) (calls : List Sighting) (cause : Fault.Cause)
      (write : m.memory.write a m.registers.acc = (calls, .error cause)) :
      PerformCases m (.sto a) ({ m with sightings := m.sightings ++ calls }, some cause)
  | br (a : Int) : PerformCases m (.br a) (m.setPc a, none)
  | brz (a : Int) (zero : m.registers.acc = 0) : PerformCases m (.brz a) (m.setPc a, none)
  | brz_not (a : Int) (nonzero : m.registers.acc ≠ 0) : PerformCases m (.brz a) (m, none)
  | brp (a : Int) (positive : m.registers.neg = false) : PerformCases m (.brp a) (m.setPc a, none)
  | brp_not (a : Int) (negative : m.registers.neg = true) : PerformCases m (.brp a) (m, none)
  | inp (value : Int) (input : InputTray) (pop : m.input.pop = .ok (value, input)) :
      PerformCases m .inp ({ m with input }.setAcc value, none)
  /-- No input was pending. -/
  | empty (cause : Fault.Cause) (pop : m.input.pop = .error cause) :
      PerformCases m .inp (m, some cause)
  | out : PerformCases m .out
      ({ m with output := m.output.push m.registers.acc }.note (.wrote m.registers.acc), none)

/-- What an instruction does is one of the cases. -/
theorem perform_cases (m : Machine) (i : Instruction) : PerformCases m i (m.perform i) := by
  cases i with
  | hlt => exact .hlt
  | add a =>
    simp only [perform, onWord]
    split
    · next word read => exact .add a word read
    · next cause read => exact .unread _ a cause rfl read
  | sub a =>
    simp only [perform, onWord]
    split
    · next word read => exact .sub a word read
    · next cause read => exact .unread _ a cause rfl read
  | sto a =>
    simp only [perform]
    split
    · next calls memory write => exact .sto a calls memory write
    · next calls cause write => exact .unwritten a calls cause write
  | lda a =>
    simp only [perform, onWord]
    split
    · next word read => exact .lda a word read
    · next cause read => exact .unread _ a cause rfl read
  | br a => exact .br a
  | brz a =>
    simp only [perform]
    split
    · next zero => exact .brz a zero
    · next nonzero => exact .brz_not a nonzero
  | brp a =>
    simp only [perform]
    split
    · next negative => exact .brp_not a negative
    · next positive => exact .brp a (Bool.eq_false_iff.mpr positive)
  | inp =>
    simp only [perform]
    split
    · next value input pop => exact .inp value input pop
    · next cause pop => exact .empty cause pop
  | out => exact .out

/-- An instruction does not count the cycle. -/
lemma perform_cycles (m : Machine) (i : Instruction) :
    (m.perform i).1.registers.cycles = m.registers.cycles := by
  have hcases := m.perform_cases i
  generalize m.perform i = r at hcases
  cases hcases with
  | sub a word read => rw [setDifference_registers]
  | _ => rfl

/-- An instruction registers no watcher and ends no registration. -/
lemma perform_watchers (m : Machine) (i : Instruction) :
    (m.perform i).1.memory.watchers = m.memory.watchers := by
  have hcases := m.perform_cases i
  generalize m.perform i = r at hcases
  cases hcases with
  | sub a word read => rw [setDifference_memory]
  | sto a calls memory write => exact Memory.watchers_of_write (congrArg Prod.snd write)
  | _ => rfl

/-- An instruction that fails leaves the machine as it was; only calls of watchers are on record. -/
lemma exists_calls_of_perform {m after : Machine} {i : Instruction} {cause : Fault.Cause}
    (h : m.perform i = (after, some cause)) :
    ∃ calls : List Sighting, after = { m with sightings := m.sightings ++ calls } := by
  have hcases := m.perform_cases i
  rw [h] at hcases
  cases hcases with
  | unread => exact ⟨[], by simp⟩
  | unwritten a calls => exact ⟨calls, rfl⟩
  | empty => exact ⟨[], by simp⟩

/-! ### The step -/

/-- The machine with its counter moved on by one. -/
def advanced (m : Machine) : Machine :=
  m.setPc ((m.registers.pc + 1) % 100)

/-- The machine that has fetched a word and is about to execute its instruction. -/
def fetched (m : Machine) (word : Int) : Machine :=
  (m.advanced.tell (.instruction m.registers word)).note (.fetched m.registers.pc word)

@[simp] lemma advanced_registers (m : Machine) :
    m.advanced.registers = { m.registers with pc := (m.registers.pc + 1) % 100 } := rfl

@[simp] lemma advanced_memory (m : Machine) : m.advanced.memory = m.memory := rfl

@[simp] lemma advanced_input (m : Machine) : m.advanced.input = m.input := rfl

@[simp] lemma advanced_output (m : Machine) : m.advanced.output = m.output := rfl

@[simp] lemma advanced_sightings (m : Machine) : m.advanced.sightings = m.sightings := rfl

section

variable (m : Machine) (word : Int)

@[simp] lemma fetched_registers :
    (m.fetched word).registers = { m.registers with pc := (m.registers.pc + 1) % 100 } := by
  simp [fetched]

@[simp] lemma fetched_memory : (m.fetched word).memory = m.memory := by
  simp [fetched]

@[simp] lemma fetched_input : (m.fetched word).input = m.input := by
  simp [fetched]

@[simp] lemma fetched_output : (m.fetched word).output = m.output := by
  simp [fetched]

@[simp] lemma fetched_sightings : (m.fetched word).sightings = m.sightings := by
  simp [fetched]

end

/-- The machine that has counted a cycle. -/
def counted (m : Machine) : Machine :=
  { m with registers := { m.registers with cycles := m.registers.cycles + 1 } }

/-- Everything that a step can do. -/
inductive StepCases (m : Machine) : Machine × Except Fault (Option Stop) → Prop where
  /-- The machine has halted before. -/
  | halted (halted : m.registers.halted = true) : StepCases m (m, .ok (some .halt))
  /-- The counter is no address. -/
  | unfetched (cause : Fault.Cause) (running : m.registers.halted = false)
      (read : m.memory.read m.registers.pc = .error cause) :
      StepCases m (m.fail m.registers.pc (m.registers.cycles + 1) cause)
  /-- The word carries no instruction. -/
  | undecoded (word : Int) (running : m.registers.halted = false)
      (read : m.memory.read m.registers.pc = .ok word)
      (decode : Instruction.decode? word = none) :
      StepCases m (m.advanced.fail m.registers.pc (m.registers.cycles + 1) (.noInstruction word))
  /-- The instruction failed. -/
  | failed (word : Int) (i : Instruction) (after : Machine) (cause : Fault.Cause)
      (running : m.registers.halted = false) (read : m.memory.read m.registers.pc = .ok word)
      (decode : Instruction.decode? word = some i)
      (perform : (m.fetched word).perform i = (after, some cause)) :
      StepCases m (after.fail m.registers.pc (m.registers.cycles + 1) cause)
  /-- The instruction was completed. -/
  | completed (word : Int) (i : Instruction) (after : Machine)
      (running : m.registers.halted = false) (read : m.memory.read m.registers.pc = .ok word)
      (decode : Instruction.decode? word = some i)
      (perform : (m.fetched word).perform i = (after, none)) :
      StepCases m (after.complete (m.registers.cycles + 1))

/-- What a step does is one of the cases. -/
theorem step_cases (m : Machine) : StepCases m m.step := by
  unfold step
  split
  · next halted => exact .halted halted
  · next running =>
    have running : m.registers.halted = false := Bool.eq_false_iff.mpr running
    dsimp only
    split
    · next cause read => exact .unfetched cause running read
    · next word read =>
      split
      · next decode => exact .undecoded word running read decode
      · next i decode =>
        split
        · next after cause perform => exact .failed word i after cause running read decode perform
        · next after perform => exact .completed word i after running read decode perform

section

variable {m : Machine} {word : Int} {i : Instruction} {after : Machine}

/-- The step of a running machine that cannot fetch a word. -/
lemma step_of_read_error {cause : Fault.Cause} (running : m.registers.halted = false)
    (read : m.memory.read m.registers.pc = .error cause) :
    m.step = m.fail m.registers.pc (m.registers.cycles + 1) cause := by
  unfold step
  rw [if_neg (by simp [running])]
  simp only [read]

/-- The step of a running machine that fetches the word of an instruction. -/
lemma step_of_decode? (running : m.registers.halted = false)
    (read : m.memory.read m.registers.pc = .ok word) (decode : Instruction.decode? word = some i) :
    m.step = match (m.fetched word).perform i with
      | (after, some cause) => after.fail m.registers.pc (m.registers.cycles + 1) cause
      | (after, none) => after.complete (m.registers.cycles + 1) := by
  unfold step
  rw [if_neg (by simp [running])]
  simp only [read, decode]
  rfl

/-- The step of a running machine that fetches another word. -/
lemma step_of_decode?_none (running : m.registers.halted = false)
    (read : m.memory.read m.registers.pc = .ok word) (decode : Instruction.decode? word = none) :
    m.step =
      m.advanced.fail m.registers.pc (m.registers.cycles + 1) (.noInstruction word) := by
  unfold step
  rw [if_neg (by simp [running])]
  simp only [read, decode]
  rfl

end

section

variable {m : Machine}

/-- A machine that has halted does nothing. -/
lemma step_of_halted (halted : m.registers.halted = true) : m.step = (m, .ok (some .halt)) := by
  unfold step
  rw [if_pos halted]

/-- A step that goes on has counted its cycle, and the machine runs on. -/
lemma registers_of_step_next (h : m.step.2 = .ok none) :
    m.step.1.registers.halted = false ∧
      m.step.1.registers.cycles = m.registers.cycles + 1 := by
  have hcases := m.step_cases
  generalize m.step = ended at h hcases
  cases hcases with
  | halted => cases h
  | unfetched => cases h
  | undecoded => cases h
  | failed => cases h
  | completed word i after =>
    rw [complete_stop] at h
    rw [complete_registers]
    cases hhalted : after.registers.halted with
    | true =>
      rw [hhalted] at h
      cases h
    | false => exact ⟨rfl, rfl⟩

/-- A step that stops has counted its cycle, and the machine has halted. -/
lemma registers_of_step_stop (running : m.registers.halted = false) (stop : Stop)
    (h : m.step.2 = .ok (some stop)) :
    stop = .halt ∧ m.step.1.registers.halted = true ∧
      m.step.1.registers.cycles = m.registers.cycles + 1 := by
  have hcases := m.step_cases
  generalize m.step = ended at h hcases
  cases hcases with
  | halted halted =>
    rw [running] at halted
    cases halted
  | unfetched => cases h
  | undecoded => cases h
  | failed => cases h
  | completed word i after =>
    rw [complete_stop] at h
    rw [complete_registers]
    cases hhalted : after.registers.halted with
    | true =>
      rw [hhalted] at h
      cases h
      exact ⟨rfl, rfl, rfl⟩
    | false =>
      rw [hhalted] at h
      cases h

/-- A step that fails is located at its mailbox and its cycle if its fault is one of the machine's
own kinds, and the machine has not halted. -/
lemma ofCause_of_step_error {f : Fault} (h : m.step.2 = .error f) :
    f = Fault.ofCause f.cause m.registers.pc (m.registers.cycles + 1) ∧
      m.registers.halted = false := by
  have hcases := m.step_cases
  generalize m.step = ended at h hcases
  cases hcases with
  | halted halted => cases h
  | unfetched cause running =>
    cases h
    exact ⟨by rw [Fault.cause_ofCause], running⟩
  | undecoded word running =>
    cases h
    exact ⟨by rw [Fault.cause_ofCause], running⟩
  | failed word i after cause running =>
    cases h
    exact ⟨by rw [Fault.cause_ofCause], running⟩
  | completed word i after =>
    rw [complete_stop] at h
    cases h

/-- A step that fails has moved the counter on, if it could fetch a word, and leaves the other
registers as they were. -/
lemma registers_eq_of_step_error {f : Fault} (h : m.step.2 = .error f) :
    m.step.1.registers = { m.registers with
      pc := if IsAddress m.registers.pc then (m.registers.pc + 1) % 100 else m.registers.pc } := by
  have hcases := m.step_cases
  generalize m.step = ended at h hcases
  cases hcases with
  | halted => cases h
  | unfetched cause running read =>
    have hpc := ((m.memory.read_eq_error_iff _ _).mp read).1
    rw [fail_registers, if_neg hpc]
  | undecoded word running read =>
    have hpc := ((m.memory.read_eq_ok_iff _ _).mp read).1
    rw [fail_registers, advanced_registers, if_pos hpc]
  | failed word i after cause running read decode perform =>
    have hpc := ((m.memory.read_eq_ok_iff _ _).mp read).1
    obtain ⟨calls, rfl⟩ := exists_calls_of_perform perform
    rw [fail_registers, if_pos hpc]
    exact fetched_registers m word
  | completed word i after =>
    rw [complete_stop] at h
    cases h

/-- A step that fails is not counted, and the machine has not halted. -/
lemma registers_of_step_error {f : Fault} (h : m.step.2 = .error f) :
    m.step.1.registers.halted = false ∧ m.step.1.registers.cycles = m.registers.cycles := by
  rw [registers_eq_of_step_error h]
  exact ⟨(ofCause_of_step_error h).2, rfl⟩

/-- A step that fails leaves the mailboxes and the trays as they were. -/
lemma data_of_step_error {f : Fault} (h : m.step.2 = .error f) :
    m.step.1.memory = m.memory ∧ m.step.1.input = m.input ∧ m.step.1.output = m.output := by
  have hcases := m.step_cases
  generalize m.step = ended at h hcases
  cases hcases with
  | halted => cases h
  | unfetched => exact ⟨fail_memory _ _ _ _, fail_input _ _ _ _, fail_output _ _ _ _⟩
  | undecoded => exact ⟨fail_memory _ _ _ _, fail_input _ _ _ _, fail_output _ _ _ _⟩
  | failed word i after cause running read decode perform =>
    obtain ⟨calls, rfl⟩ := exists_calls_of_perform perform
    rw [fail_memory, fail_input, fail_output]
    exact ⟨fetched_memory m word, fetched_input m word, fetched_output m word⟩
  | completed word i after =>
    rw [complete_stop] at h
    cases h

end

end Machine

end LittleMan
