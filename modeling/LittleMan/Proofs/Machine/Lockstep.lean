import LittleMan.Proofs.Machine.Execution

/-!
# Machines in lockstep

Two machines that differ in something that an instruction does not look at do the same side by
side. How they differ is told in one of two ways.

The one machine may be made from the other by a change that reading does not see (`IsUnread`): it
leaves the registers alone, and it may be made before or after anything that a step does to the
registers, the output tray and the records. Such a change goes through a step if it goes through the
instruction (`IsUnread.step`), and it goes through every instruction but two, for storing and taking
an input are left open (`IsUnread.performsThrough`). A change that leaves the memory alone as well
goes through storing (`IsUnseen`); then taking an input is the one thing that is left open.

Or the machines are in a relation that a step keeps (`IsLockstep`), with the same outcome on both
sides. Then they complete the same instructions (`IsLockstep.completes`) and make the same runs
(`IsLockstep.run`). Faults can be excused: where the first machine fails by such a fault, nothing is
said of the other one. A relation may also depend on how many instructions there are to go
(`IsPaced`), as one that speaks of the rest of a run does.
-/

namespace LittleMan

namespace Machine

/-! ### Changes that a step does not see -/

/-- The machine with other registers. -/
def withRegisters (m : Machine) (registers : Registers) : Machine :=
  { m with registers }

/-- The machine with another memory, after calls of watchers. -/
def withStored (m : Machine) (memory : Memory) (calls : List Sighting) : Machine :=
  { m with memory, sightings := m.sightings ++ calls }

/-- The machine with one more value on its output tray. -/
def withOutput (m : Machine) (value : Int) : Machine :=
  { m with output := m.output.push value }

/-- A store replaces the memory, or it is refused and leaves it. -/
lemma perform_sto (m : Machine) (a : Int) :
    m.perform (.sto a) = match m.memory.write a m.registers.acc with
      | (calls, .ok memory) => (m.withStored memory calls, none)
      | (calls, .error cause) => (m.withStored m.memory calls, some cause) := rfl

/-- A completed step sets the count, and a machine that has halted tells so. -/
lemma complete_eq (m : Machine) (cycle : Int) : m.complete cycle =
    if m.registers.halted then
      ((m.withRegisters { m.registers with cycles := cycle }).note (.halted cycle),
        .ok (some .halt))
    else (m.withRegisters { m.registers with cycles := cycle }, .ok none) := rfl

/-- A change of machines that can be made before or after whatever a step does, but for taking an
input and storing. Reading does not tell whether it was made. -/
structure IsUnread (alter : Machine → Machine) : Prop where
  registers (m : Machine) : (alter m).registers = m.registers
  read (m : Machine) (address : Int) : (alter m).memory.read address = m.memory.read address
  withRegisters (m : Machine) (registers : Registers) :
    (alter m).withRegisters registers = alter (m.withRegisters registers)
  withOutput (m : Machine) (value : Int) :
    (alter m).withOutput value = alter (m.withOutput value)
  tell (m : Machine) (e : TraceEntry) : (alter m).tell e = alter (m.tell e)
  note (m : Machine) (e : Event) : (alter m).note e = alter (m.note e)

/-- An instruction goes through the change. -/
def PerformsThrough (alter : Machine → Machine) (m : Machine) (i : Instruction) : Prop :=
  (alter m).perform i = (alter (m.perform i).1, (m.perform i).2)

namespace IsUnread

variable {alter : Machine → Machine}

lemma setAcc (h : IsUnread alter) (m : Machine) (value : Int) :
    (alter m).setAcc value = alter (m.setAcc value) := by
  change (alter m).withRegisters { (alter m).registers with acc := value } = _
  rw [h.registers, h.withRegisters]
  rfl

lemma setPc (h : IsUnread alter) (m : Machine) (address : Int) :
    (alter m).setPc address = alter (m.setPc address) := by
  change (alter m).withRegisters { (alter m).registers with pc := address } = _
  rw [h.registers, h.withRegisters]
  rfl

lemma setDifference (h : IsUnread alter) (m : Machine) (raw : Int) :
    (alter m).setDifference raw = alter (m.setDifference raw) := by
  unfold Machine.setDifference
  rw [h.registers]
  split
  · exact h.withRegisters m _
  · exact h.withRegisters m _

/-- An action on the word of a mailbox goes through the change if it does for every word. -/
lemma onWord (h : IsUnread alter) (m : Machine) (address : Int) {act act' : Int → Machine}
    (hact : ∀ word, act' word = alter (act word)) : (alter m).onWord address act' =
      (alter (m.onWord address act).1, (m.onWord address act).2) := by
  unfold Machine.onWord
  rw [h.read]
  cases m.memory.read address with
  | error cause => rfl
  | ok word => exact congrArg (·, none) (hact word)

/-- An instruction goes through the change, if taking an input and storing do. -/
theorem performsThrough (h : IsUnread alter) {m : Machine} {i : Instruction}
    (hinp : i = .inp → PerformsThrough alter m .inp)
    (hsto : ∀ a, i = .sto a → PerformsThrough alter m (.sto a)) : PerformsThrough alter m i := by
  unfold PerformsThrough at *
  cases i with
  | inp => exact hinp rfl
  | sto a => exact hsto a rfl
  | add a => exact h.onWord m a fun word => by rw [h.registers, h.setAcc]
  | sub a => exact h.onWord m a fun word => by rw [h.registers, h.setDifference]
  | lda a => exact h.onWord m a fun word => h.setAcc m word
  | br a => exact congrArg (·, none) (h.setPc m a)
  | hlt =>
    change ((alter m).withRegisters { (alter m).registers with halted := true }, none) = _
    rw [h.registers, h.withRegisters]
    rfl
  | brz a =>
    simp only [Machine.perform, h.registers, h.setPc]
    split <;> rfl
  | brp a =>
    simp only [Machine.perform, h.registers, h.setPc]
    split <;> rfl
  | out =>
    change (((alter m).withOutput (alter m).registers.acc).note _, none) = _
    rw [h.registers, h.withOutput, h.note]
    rfl

/-- Taking an input goes through the change if it leaves the input tray alone. -/
lemma performsThrough_inp (h : IsUnread alter) {m : Machine} (hinput : (alter m).input = m.input)
    (hwith : ∀ input : InputTray, { alter m with input } = alter { m with input }) :
    PerformsThrough alter m .inp := by
  simp only [PerformsThrough, Machine.perform, hinput]
  cases m.input.pop with
  | error cause => rfl
  | ok popped =>
    dsimp only
    rw [hwith, h.setAcc]

lemma fail (h : IsUnread alter) (m : Machine) (address cycle : Int) (cause : Fault.Cause) :
    (alter m).fail address cycle cause =
      (alter (m.fail address cycle cause).1, (m.fail address cycle cause).2) := by
  unfold Machine.fail tellFault
  dsimp only
  rw [h.tell, h.note]
  split <;> rfl

lemma complete (h : IsUnread alter) (m : Machine) (cycle : Int) :
    (alter m).complete cycle = (alter (m.complete cycle).1, (m.complete cycle).2) := by
  rw [complete_eq, complete_eq, h.registers, h.withRegisters]
  split
  · rw [h.note]
  · rfl

lemma fetched (h : IsUnread alter) (m : Machine) (word : Int) :
    (alter m).fetched word = alter (m.fetched word) := by
  unfold Machine.fetched advanced
  rw [h.registers, h.setPc, h.tell, h.note]

/-- A step goes through the change if its instruction does. -/
theorem step (h : IsUnread alter) {m : Machine}
    (hperform : ∀ word i, m.registers.halted = false → m.memory.read m.registers.pc = .ok word →
      Instruction.decode? word = some i → PerformsThrough alter (m.fetched word) i) :
    (alter m).step = (alter m.step.1, m.step.2) := by
  cases running : m.registers.halted with
  | true =>
    rw [step_of_halted running, step_of_halted (by rw [h.registers, running])]
  | false =>
    have running' : (alter m).registers.halted = false := by rw [h.registers, running]
    have hread : (alter m).memory.read (alter m).registers.pc = m.memory.read m.registers.pc := by
      rw [h.registers, h.read]
    cases read : m.memory.read m.registers.pc with
    | error cause =>
      rw [read] at hread
      rw [step_of_read_error running read, step_of_read_error running' hread, h.registers, h.fail]
    | ok word =>
      rw [read] at hread
      cases decode : Instruction.decode? word with
      | none =>
        rw [step_of_decode?_none running read decode, step_of_decode?_none running' hread decode,
          advanced, h.setPc, h.registers, h.fail]
        rfl
      | some i =>
        have hthrough := hperform word i running read decode
        unfold PerformsThrough at hthrough
        rw [step_of_decode? running read decode, step_of_decode? running' hread decode, h.fetched,
          hthrough, h.registers]
        rcases (m.fetched word).perform i with ⟨after, _ | cause⟩
        · exact h.complete after _
        · exact h.fail after _ _ cause

end IsUnread

/-- A change of machines that can be made before or after whatever a step does, but for taking an
input. -/
structure IsUnseen (alter : Machine → Machine) : Prop where
  registers (m : Machine) : (alter m).registers = m.registers
  memory (m : Machine) : (alter m).memory = m.memory
  withRegisters (m : Machine) (registers : Registers) :
    (alter m).withRegisters registers = alter (m.withRegisters registers)
  withStored (m : Machine) (memory : Memory) (calls : List Sighting) :
    (alter m).withStored memory calls = alter (m.withStored memory calls)
  withOutput (m : Machine) (value : Int) :
    (alter m).withOutput value = alter (m.withOutput value)
  tell (m : Machine) (e : TraceEntry) : (alter m).tell e = alter (m.tell e)
  note (m : Machine) (e : Event) : (alter m).note e = alter (m.note e)

/-- Taking an input goes through the change. -/
def TakesThrough (alter : Machine → Machine) (m : Machine) : Prop :=
  (alter m).perform .inp = (alter (m.perform .inp).1, (m.perform .inp).2)

namespace IsUnseen

variable {alter : Machine → Machine}

/-- What leaves the memory alone is not seen by reading. -/
lemma isUnread (h : IsUnseen alter) : IsUnread alter :=
  ⟨h.registers, fun m _ => by rw [h.memory], h.withRegisters, h.withOutput, h.tell, h.note⟩

/-- Storing goes through the change. -/
lemma performsThrough_sto (h : IsUnseen alter) (m : Machine) (a : Int) :
    PerformsThrough alter m (.sto a) := by
  unfold PerformsThrough
  rw [perform_sto, perform_sto, h.memory, h.registers]
  rcases m.memory.write a m.registers.acc with ⟨calls, cause | memory⟩
  · exact congrArg (·, some cause) (h.withStored m m.memory calls)
  · exact congrArg (·, none) (h.withStored m memory calls)

/-- An instruction goes through the change, if taking an input does. -/
theorem performsThrough (h : IsUnseen alter) {m : Machine} {i : Instruction}
    (hinp : i = .inp → TakesThrough alter m) : PerformsThrough alter m i :=
  h.isUnread.performsThrough hinp fun a _ => h.performsThrough_sto m a

/-- A step goes through the change, if taking an input does where the step takes one. -/
theorem step (h : IsUnseen alter) {m : Machine}
    (hinp : ∀ word, m.registers.halted = false → m.memory.read m.registers.pc = .ok word →
      Instruction.decode? word = some .inp → TakesThrough alter (m.fetched word)) :
    (alter m).step = (alter m.step.1, m.step.2) :=
  h.isUnread.step fun word _ running read decode =>
    h.performsThrough fun hi => hinp word running read (hi ▸ decode)

end IsUnseen

/-! ### Relations that a step keeps -/

/-- Machines in the relation with so many instructions to go complete the same instruction, and then
they are in the relation with one less to go, or they fail by the same fault and are in the relation
with none to go, unless the fault is excused. -/
structure IsPaced (excused : Fault → Prop) (R : Nat → Machine → Machine → Prop) : Prop where
  registers : ∀ n m m', R n m m' → m.registers = m'.registers
  note : ∀ m m' e, R 0 m m' → R 0 (m.note e) (m'.note e)
  completed : ∀ n m m' next stop, R (n + 1) m m' → m.registers.halted = false →
    m.step = (next, .ok stop) → ∃ next', m'.step = (next', .ok stop) ∧ R n next next'
  failed : ∀ n m m' after f, R (n + 1) m m' → m.step = (after, .error f) → ¬ excused f →
    ∃ after', m'.step = (after', .error f) ∧ R 0 after after'

namespace IsPaced

variable {excused : Fault → Prop} {R : Nat → Machine → Machine → Prop} {m m' : Machine}

/-- They complete the same instructions. -/
theorem completes (h : IsPaced excused R) {k n : Nat} (hR : R (k + n) m m') {after : Machine}
    (hway : Completes m k after) : ∃ after', Completes m' k after' ∧ R n after after' := by
  induction hway generalizing m' with
  | none m =>
    rw [Nat.zero_add] at hR
    exact ⟨m', .none m', hR⟩
  | @cons m next after k stop running step rest ih =>
    rw [Nat.add_right_comm] at hR
    have running' : m'.registers.halted = false := by
      rw [← h.registers _ m m' hR]
      exact running
    obtain ⟨next', step', hnext⟩ := h.completed _ m m' next stop hR running step
    obtain ⟨after', hrest, hafter⟩ := ih hnext
    exact ⟨after', .cons stop running' step' hrest, hafter⟩

/-- They make the same runs. -/
theorem runFor (h : IsPaced excused R) {budget : Nat} (hR : R budget m m')
    (hfault : ∀ f, (m.runFor budget).2 = .error f → ¬ excused f) :
    (∃ n, R n (m.runFor budget).1 (m'.runFor budget).1) ∧
      (m.runFor budget).2 = (m'.runFor budget).2 := by
  have hcases := m.run_cases budget
  generalize m.runFor budget = ended at hfault hcases
  cases hcases with
  | halt k after le completes halted =>
    obtain ⟨n, rfl⟩ := Nat.exists_eq_add_of_le le
    obtain ⟨after', hway, hafter⟩ := h.completes hR completes
    rw [h.registers _ _ _ hafter] at halted
    rw [(RunCases.halt k after' le hway halted).runFor_eq]
    exact ⟨⟨n, hafter⟩, rfl⟩
  | timeout after completes running =>
    obtain ⟨after', hway, hafter⟩ := h.completes (n := 0) hR completes
    rw [h.registers _ _ _ hafter] at running
    rw [(RunCases.timeout after' hway running).runFor_eq, h.registers _ _ _ hafter]
    exact ⟨⟨0, h.note _ _ _ hafter⟩, rfl⟩
  | fault k before failed f lt completes step =>
    obtain ⟨n, rfl⟩ : ∃ n, budget = k + (n + 1) := ⟨budget - k - 1, by omega⟩
    obtain ⟨before', hway, hbefore⟩ := h.completes hR completes
    obtain ⟨failed', step', hfailed⟩ :=
      h.failed n before before' failed f hbefore step (hfault f rfl)
    rw [(RunCases.fault k before' failed' f lt hway step').runFor_eq]
    exact ⟨⟨0, hfailed⟩, rfl⟩

/-- They make the same runs, whatever the budget. -/
theorem run (h : IsPaced excused R) {budget : Int} (hR : R budget.toNat m m')
    (hfault : ∀ f, (m.run budget).2 = .error (.fault f) → ¬ excused f) :
    (∃ n, R n (m.run budget).1 (m'.run budget).1) ∧ (m.run budget).2 = (m'.run budget).2 := by
  rcases Int.lt_or_le budget 0 with hneg | hbudget
  · rw [run_of_neg m hneg, run_of_neg m' hneg]
    exact ⟨⟨_, hR⟩, rfl⟩
  · obtain ⟨n, rfl⟩ := Int.eq_ofNat_of_zero_le hbudget
    rw [Int.toNat_natCast] at hR
    rw [run_ofNat] at hfault
    rw [run_ofNat, run_ofNat]
    obtain ⟨hafter, houtcome⟩ := h.runFor hR fun f hf => hfault f (by rw [hf]; rfl)
    exact ⟨hafter, congrArg (Except.mapError Error.fault) houtcome⟩

end IsPaced

/-- Machines in the relation make the same step and are in the relation afterwards, unless the first
one fails by a fault that is excused. -/
structure IsLockstep (excused : Fault → Prop) (R : Machine → Machine → Prop) : Prop where
  registers : ∀ m m', R m m' → m.registers = m'.registers
  note : ∀ m m' e, R m m' → R (m.note e) (m'.note e)
  step : ∀ m m', R m m' → (∀ f, m.step.2 = .error f → ¬ excused f) →
    R m.step.1 m'.step.1 ∧ m.step.2 = m'.step.2

namespace IsLockstep

variable {excused : Fault → Prop} {R : Machine → Machine → Prop} {m m' : Machine}

/-- It does not matter how many instructions there are to go. -/
lemma isPaced (h : IsLockstep excused R) : IsPaced excused fun _ => R where
  registers _ := h.registers
  note := h.note
  completed := by
    intro n m m' next stop hR running step
    obtain ⟨hnext, houtcome⟩ := h.step m m' hR (by rw [step]; exact nofun)
    rw [step] at hnext houtcome
    exact ⟨m'.step.1, Prod.ext rfl houtcome.symm, hnext⟩
  failed := by
    intro n m m' after f hR step hf
    have hunexcused : ∀ f', m.step.2 = .error f' → ¬ excused f' := by
      rw [step]
      rintro f' ⟨⟩
      exact hf
    obtain ⟨hafter, houtcome⟩ := h.step m m' hR hunexcused
    rw [step] at hafter houtcome
    exact ⟨m'.step.1, Prod.ext rfl houtcome.symm, hafter⟩

/-- They complete the same instructions. -/
theorem completes (h : IsLockstep excused R) (hR : R m m') {k : Nat} {after : Machine}
    (hway : Completes m k after) : ∃ after', Completes m' k after' ∧ R after after' :=
  h.isPaced.completes (n := 0) hR hway

/-- They make the same runs. -/
theorem runFor (h : IsLockstep excused R) (hR : R m m') (budget : Nat)
    (hfault : ∀ f, (m.runFor budget).2 = .error f → ¬ excused f) :
    R (m.runFor budget).1 (m'.runFor budget).1 ∧ (m.runFor budget).2 = (m'.runFor budget).2 := by
  obtain ⟨⟨-, hafter⟩, houtcome⟩ := h.isPaced.runFor hR hfault
  exact ⟨hafter, houtcome⟩

/-- They make the same runs, whatever the budget. -/
theorem run (h : IsLockstep excused R) (hR : R m m') (budget : Int)
    (hfault : ∀ f, (m.run budget).2 = .error (.fault f) → ¬ excused f) :
    R (m.run budget).1 (m'.run budget).1 ∧ (m.run budget).2 = (m'.run budget).2 := by
  obtain ⟨⟨-, hafter⟩, houtcome⟩ := h.isPaced.run hR hfault
  exact ⟨hafter, houtcome⟩

end IsLockstep

end Machine

end LittleMan
