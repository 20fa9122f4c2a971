import LittleMan.Proofs.Machine.Execution
import LittleMan.Proofs.Machine.Range

/-!
# Faults that are reported

A fault is told in words, and words need numbers that can be written: the one it is about, the
mailbox and the cycle of the instruction. A machine whose accumulator and counter can be written has
no others (`IsWritten`), and an instruction never makes a number larger than those it found, so a
step keeps this (`IsWritten.step`). What is left is the count of cycles, which a run moves from one
end to the other (`isWritable_cycles`).

So whether the fault of a run is reported as one of the machine's own kinds is then a matter of its
kind alone (`IsWritten.isOwn_of_completes`), and where nobody watches it is one of them
(`Operable.isOwn_of_completes`).
-/

namespace LittleMan

namespace Machine

/-- The machine stores words, and its accumulator and its counter can be written. -/
structure IsWritten (m : Machine) : Prop extends StoresWords m where
  acc : Text.isWritable m.registers.acc = true
  pc : Text.isWritable m.registers.pc = true

section

variable {m before : Machine} {k : Nat}

/-- Words and addresses can be written. -/
lemma Operable.isWritten (h : m.Operable) : m.IsWritten :=
  ⟨h.toStoresWords, Text.isWritable_of_isWord h.acc, Text.isWritable_of_isAddress h.pc⟩

/-- Other registers will do if they can be written. -/
lemma IsWritten.withRegisters (h : m.IsWritten) {m' : Machine} (hmemory : m'.memory = m.memory)
    (hinput : m'.input = m.input) (hacc : Text.isWritable m'.registers.acc = true)
    (hpc : Text.isWritable m'.registers.pc = true) : m'.IsWritten :=
  ⟨h.toStoresWords.congr hmemory hinput, hacc, hpc⟩

/-- The accumulator can be written after any instruction. -/
lemma IsWritten.acc_perform (h : m.IsWritten) (i : Instruction) :
    Text.isWritable (m.perform i).1.registers.acc = true := by
  have hcases := m.perform_cases i
  generalize m.perform i = r at hcases
  cases hcases with
  | add a word read => exact Text.isWritable_of_isWord (isWord_emod _)
  | sub a word read =>
    have hword := h.memory.isWord_of_read read
    rw [setDifference_registers]
    dsimp only
    split
    · exact Text.isWritable_of_isWord (isWord_emod _)
    · next hraw =>
      -- a difference that is not negative is no larger than the accumulator was
      unfold IsWord at hword
      exact Text.isWritable_of_natAbs_le h.acc (by omega)
  | lda a word read => exact Text.isWritable_of_isWord (h.memory.isWord_of_read read)
  | inp value input pop =>
    refine Text.isWritable_of_isWord (h.pending value ?_)
    rw [(m.input.pop_eq_ok_iff input value).mp pop]
    exact List.mem_cons_self
  | _ => exact h.acc

/-- So can the counter, after an instruction on an address. -/
lemma IsWritten.perform (h : m.IsWritten) {i : Instruction}
    (hi : ∀ a, i.operand? = some a → IsAddress a) : (m.perform i).1.IsWritten := by
  refine ⟨h.toStoresWords.perform i, h.acc_perform i, ?_⟩
  have hcases := m.perform_cases i
  generalize m.perform i = r at hcases
  cases hcases with
  | sub a word read =>
    rw [setDifference_registers]
    exact h.pc
  | br a => exact Text.isWritable_of_isAddress (hi a rfl)
  | brz a zero => exact Text.isWritable_of_isAddress (hi a rfl)
  | brp a positive => exact Text.isWritable_of_isAddress (hi a rfl)
  | _ => exact h.pc

/-- A machine that has fetched a word is written if it was. -/
lemma IsWritten.fetched (h : m.IsWritten) (word : Int) : (m.fetched word).IsWritten := by
  refine h.withRegisters (m.fetched_memory word) (m.fetched_input word) ?_ ?_
  · rw [fetched_registers]
    exact h.acc
  · rw [fetched_registers]
    exact Text.isWritable_of_isAddress (isAddress_emod (m.registers.pc + 1))

/-- A step leaves numbers that can be written if it found such. -/
theorem IsWritten.step (h : m.IsWritten) : m.step.1.IsWritten :=
  step_induction
    (fun m e h => h.withRegisters (m.tell_memory e) (m.tell_input e)
      ((m.tell_registers e).symm ▸ h.acc) ((m.tell_registers e).symm ▸ h.pc))
    (fun _ _ h => h.withRegisters rfl rfl h.acc h.pc)
    (fun _ h => h.withRegisters rfl rfl h.acc (Text.isWritable_of_isAddress (isAddress_emod _)))
    (fun _ _ hi h => h.perform hi)
    (fun _ h => h.withRegisters rfl rfl h.acc h.pc) h

/-- What an instruction fails for can be put into words. -/
lemma IsWritten.isWritable_of_perform (h : m.IsWritten) {i : Instruction} {after : Machine}
    {cause : Fault.Cause} (hi : ∀ a, i.operand? = some a → IsAddress a)
    (hperform : m.perform i = (after, some cause)) : cause.isWritable = true := by
  have hcases := m.perform_cases i
  rw [hperform] at hcases
  cases hcases with
  | unread i a cause reads read =>
    exact absurd (hi a reads) ((m.memory.read_eq_error_iff a cause).mp read).1
  | unwritten a calls cause write =>
    have hwrite := m.memory.write_cases a m.registers.acc
    rw [write] at hwrite
    cases hwrite with
    | noMailbox outside => exact absurd (hi a rfl) outside
    | notStorable => exact h.acc
    | objected address word calls cause call =>
      obtain ⟨w, -, o, -, rfl⟩ := Memory.exists_objection_of_callWatchers call
      cases o <;> rfl
  | empty cause pop =>
    obtain ⟨-, rfl⟩ := (m.input.pop_eq_error_iff cause).mp pop
    rfl

/-- So can what a step fails for. -/
lemma IsWritten.isWritable_cause (h : m.IsWritten) {f : Fault} (hstep : m.step.2 = .error f) :
    f.cause.isWritable = true := by
  have hcases := m.step_cases
  generalize m.step = ended at hstep hcases
  cases hcases with
  | halted => cases hstep
  | unfetched cause running read =>
    obtain ⟨-, rfl⟩ := (m.memory.read_eq_error_iff _ cause).mp read
    obtain rfl := Except.error.inj hstep
    rw [Fault.cause_ofCause]
    exact h.pc
  | undecoded word running read =>
    obtain rfl := Except.error.inj hstep
    rw [Fault.cause_ofCause]
    exact Text.isWritable_of_isWord (h.memory.isWord_of_read read)
  | failed word i after cause running read decode perform =>
    obtain rfl := Except.error.inj hstep
    rw [Fault.cause_ofCause]
    exact (h.fetched word).isWritable_of_perform
      (fun _ => Instruction.isAddress_of_decode? decode) perform
  | completed word i after =>
    rw [complete_stop] at hstep
    cases hstep

/-- The fault of a step whose cycle can be written is reported as it is if its kind is one of the
machine's own. -/
theorem IsWritten.isOwn_of_step (h : m.IsWritten)
    (hcycle : Text.isWritable (m.registers.cycles + 1) = true) {f : Fault}
    (hstep : m.step.2 = .error f) : f.isOwn = f.kind.isOwn := by
  have hcause := h.isWritable_cause hstep
  obtain ⟨hlocated, -⟩ := ofCause_of_step_error hstep
  unfold Fault.ofCause Fault.Cause.isOwn at hlocated
  unfold Fault.isOwn Fault.isWritable Fault.kind
  rw [hcause, Bool.and_true] at hlocated
  cases hkind : f.cause.kind.isOwn with
  | false => rfl
  | true =>
    rw [hkind, if_pos rfl] at hlocated
    have haddress : f.address = some m.registers.pc := congrArg Fault.address hlocated
    have hcycle' : f.cycle = some (m.registers.cycles + 1) := congrArg Fault.cycle hlocated
    rw [hcause, haddress, hcycle', Option.all_some, Option.all_some, hcycle, h.pc]
    rfl

/-- Between the count before a run and that at the end of its budget, counts can be written. -/
lemma isWritable_cycles {budget : Nat} (hstart : Text.isWritable m.registers.cycles = true)
    (hend : Text.isWritable (m.registers.cycles + budget) = true) (hk : k ≤ budget) :
    Text.isWritable (m.registers.cycles + k) = true := by
  rw [Text.isWritable_iff] at hstart hend ⊢
  omega

/-- The same of the instruction that fails behind completed ones, as long as their budget can be
counted. -/
theorem IsWritten.isOwn_of_completes (h : m.IsWritten) {budget : Nat}
    (hstart : Text.isWritable m.registers.cycles = true)
    (hend : Text.isWritable (m.registers.cycles + budget) = true) (hk : k < budget)
    (way : Completes m k before) {f : Fault} (hstep : before.step.2 = .error f) :
    f.isOwn = f.kind.isOwn := by
  have hbefore : before.IsWritten := way.keeps (fun _ h => h.step) h
  refine hbefore.isOwn_of_step ?_ hstep
  have hcycles : before.registers.cycles + 1 = m.registers.cycles + ((k + 1 : Nat) : Int) := by
    rw [way.cycles]
    push_cast
    omega
  rw [hcycles]
  exact isWritable_cycles hstart hend hk

/-- Where nobody watches, a machine that can operate fails in ways of its own only. -/
lemma Operable.isOwn_kind_of_completes (h : m.Operable) (hunwatched : m.memory.watchers = [])
    (way : Completes m k before) {f : Fault} (hstep : before.step.2 = .error f) :
    f.kind.isOwn = true := by
  have hbefore : before.Operable := way.keeps (fun _ h => h.step) h
  have hwatchers : before.memory.watchers = [] :=
    way.keeps (P := fun now => now.memory.watchers = []) (fun now h => now.step_watchers.trans h)
      hunwatched
  have hcause := (hbefore.mayFailFor_of_step hstep).isOwn hwatchers
  unfold Fault.Cause.isOwn at hcause
  exact (Bool.and_eq_true_iff.mp hcause).1

/-- So it is reported. -/
theorem Operable.isOwn_of_completes (h : m.Operable) (hunwatched : m.memory.watchers = [])
    {budget : Nat} (hstart : Text.isWritable m.registers.cycles = true)
    (hend : Text.isWritable (m.registers.cycles + budget) = true) (hk : k < budget)
    (way : Completes m k before) {f : Fault} (hstep : before.step.2 = .error f) :
    f.isOwn = true := by
  rw [h.isWritten.isOwn_of_completes hstart hend hk way hstep]
  exact h.isOwn_kind_of_completes hunwatched way hstep

end

end Machine

end LittleMan
