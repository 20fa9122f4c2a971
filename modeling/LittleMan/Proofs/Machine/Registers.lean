import LittleMan.Proofs.Machine.Chronicle
import LittleMan.Proofs.Machine.Range

/-!
# What the registers tell of the past

Three of the registers are a summary of the instructions completed since the registers were last put
back to power-on. The negative flag tells whether the last subtraction went below zero, the count
tells how many instructions there were, and the machine has halted if the last of them was a halt
(`Accounts`). Nothing else has any influence on them: no other instruction, no instruction that
failed, and no request about the memory, the trays or the trace.

What one instruction does to these registers is said by the lemmas on `Completion`; what becomes of
them in a session follows by induction over its chronicle (`accounts_session`). The main statements
are `session_neg_iff`, with what it means for the branches on the flag, and
`session_cycles_halted`, with what a run counts and what remains of a machine that has halted.
-/

namespace LittleMan

namespace Machine

/-! ### Instructions and the registers -/

section

variable {m after : Machine} {i : Instruction} {stop : Option Stop}

/-- Only a halt halts the machine. -/
lemma perform_halted_of_ne (m : Machine) (h : i ≠ .hlt) :
    (m.perform i).1.registers.halted = m.registers.halted := by
  have hcases := m.perform_cases i
  generalize m.perform i = r at hcases
  cases hcases with
  | hlt => exact absurd rfl h
  | sub a word read => rw [setDifference_registers]
  | _ => rfl

/-- Only a subtraction sets or clears the negative flag. -/
lemma perform_neg_of_ne (m : Machine) (h : ∀ a, i ≠ .sub a) :
    (m.perform i).1.registers.neg = m.registers.neg := by
  have hcases := m.perform_cases i
  generalize m.perform i = r at hcases
  cases hcases with
  | sub a word read => exact absurd rfl (h a)
  | _ => rfl

/-- A subtraction that does not fail takes the difference to the word of its mailbox. -/
lemma perform_sub_registers {a : Int} (h : (m.perform (.sub a)).2 = none) :
    ∃ cell, m.memory.read a = .ok cell ∧ (m.perform (.sub a)).1.registers = { m.registers with
      acc := if m.registers.acc - cell < 0 then (m.registers.acc - cell + 1000) % 1000
        else m.registers.acc - cell
      neg := decide (m.registers.acc - cell < 0) } := by
  have hcases := m.perform_cases (.sub a)
  generalize m.perform (.sub a) = r at h hcases
  cases hcases with
  | sub a cell read => exact ⟨cell, read, setDifference_registers m _⟩
  | unread => cases h

/-- The registers after a completed instruction are those that it left, with the cycle counted. -/
lemma exists_registers_of_step (running : m.registers.halted = false)
    (carried : m.next? = some i) (step : m.step = (after, .ok stop)) :
    ∃ word, ((m.fetched word).perform i).2 = none ∧ after.registers =
      { ((m.fetched word).perform i).1.registers with cycles := m.registers.cycles + 1 } := by
  obtain ⟨word, performed, hperform, rfl⟩ := exists_perform_of_step running carried step
  refine ⟨word, ?_, ?_⟩
  · rw [hperform]
  · rw [hperform, complete_registers]

end

/-! ### One completed instruction -/

namespace Completion

/-- The instruction is a subtraction. -/
def subtracts (c : Completion) : Bool :=
  match c.instruction with
  | .sub _ => true
  | _ => false

/-- The instruction subtracted a word that was larger than the accumulator. -/
def Borrows (c : Completion) : Prop :=
  ∃ a cell, c.instruction = .sub a ∧ c.before.memory.read a = .ok cell ∧
    c.before.registers.acc < cell

variable (c : Completion)

/-- Every completed instruction is counted once. -/
lemma cycles_after : c.after.registers.cycles = c.before.registers.cycles + 1 :=
  (stop_of_step c.running c.step).2

/-- The machine has halted after a halt, and after no other instruction. -/
lemma halted_after_iff : c.after.registers.halted = true ↔ c.instruction = .hlt := by
  obtain ⟨word, hnone, hregisters⟩ := exists_registers_of_step c.running c.carried c.step
  rw [hregisters]
  dsimp only
  by_cases h : c.instruction = .hlt
  · rw [h]
    exact iff_of_true rfl rfl
  · rw [perform_halted_of_ne _ h, fetched_registers]
    simp [c.running, h]

/-- The negative flag stays what it was in every instruction but a subtraction. -/
lemma neg_after_of_not_subtracts (h : c.subtracts = false) :
    c.after.registers.neg = c.before.registers.neg := by
  obtain ⟨word, hnone, hregisters⟩ := exists_registers_of_step c.running c.carried c.step
  have hne : ∀ a, c.instruction ≠ .sub a := by
    intro a ha
    unfold subtracts at h
    rw [ha] at h
    cases h
  rw [hregisters]
  dsimp only
  rw [perform_neg_of_ne _ hne, fetched_registers]

/-- A subtraction leaves the difference in the accumulator, a thousand added if it is negative, and
the flag tells whether it is. -/
lemma exists_cell_of_sub {a : Int} (h : c.instruction = .sub a) :
    ∃ cell, c.before.memory.read a = .ok cell ∧
      c.after.registers.neg = decide (c.before.registers.acc - cell < 0) ∧
      c.after.registers.acc = if c.before.registers.acc - cell < 0 then
        (c.before.registers.acc - cell + 1000) % 1000 else c.before.registers.acc - cell := by
  obtain ⟨word, hnone, hregisters⟩ := exists_registers_of_step c.running c.carried c.step
  rw [h] at hnone hregisters
  obtain ⟨cell, hread, hperform⟩ := perform_sub_registers hnone
  rw [fetched_memory] at hread
  rw [hperform, fetched_registers] at hregisters
  exact ⟨cell, hread, by rw [hregisters], by rw [hregisters]⟩

/-- After a subtraction the negative flag tells whether the word was larger. -/
lemma neg_after_iff_of_subtracts (h : c.subtracts = true) :
    c.after.registers.neg = true ↔ c.Borrows := by
  obtain ⟨a, ha⟩ : ∃ a, c.instruction = .sub a := by
    unfold subtracts at h
    split at h
    · next a ha => exact ⟨a, ha⟩
    · cases h
  obtain ⟨cell, hread, hneg, -⟩ := c.exists_cell_of_sub ha
  rw [hneg, decide_eq_true_iff]
  constructor
  · intro hlt
    exact ⟨a, cell, ha, hread, by omega⟩
  · rintro ⟨a', cell', ha', hread', hlt⟩
    obtain rfl := Instruction.sub.inj (ha.symm.trans ha')
    obtain rfl := Except.ok.inj (hread.symm.trans hread')
    omega

/-- A subtraction of words leaves their difference modulo a thousand. -/
lemma acc_after_of_sub (hoperable : c.before.Operable) {a : Int} (h : c.instruction = .sub a) :
    ∃ cell, c.before.memory.read a = .ok cell ∧
      c.after.registers.acc = (c.before.registers.acc - cell) % 1000 := by
  obtain ⟨cell, hread, -, hacc⟩ := c.exists_cell_of_sub h
  obtain ⟨hlow, hhigh⟩ := hoperable.acc
  obtain ⟨hcell, hcell'⟩ := hoperable.memory.isWord_of_read hread
  refine ⟨cell, hread, ?_⟩
  rw [hacc]
  split <;> omega

/-- A branch on the negative flag is taken if the flag is clear, and otherwise the counter moves
on. -/
lemma pc_after_of_brp {a : Int} (h : c.instruction = .brp a) : c.after.registers.pc =
    if c.before.registers.neg then (c.before.registers.pc + 1) % 100 else a := by
  obtain ⟨word, -, hregisters⟩ := exists_registers_of_step c.running c.carried c.step
  rw [hregisters, h]
  simp only [perform, fetched_registers]
  split
  · rw [fetched_registers]
  · rfl

end Completion

/-! ### Completed instructions so far -/

/-- The last subtraction among the instructions was of a word larger than the accumulator. -/
def LastBorrows (completed : List Completion) : Prop :=
  ∃ c, (completed.filter Completion.subtracts).getLast? = some c ∧ c.Borrows

/-- The last of the instructions is a halt. -/
def EndsInHalt (completed : List Completion) : Prop :=
  ∃ c, completed.getLast? = some c ∧ c.instruction = .hlt

/-- An instruction that is no subtraction does not change which subtraction is the last. -/
lemma lastBorrows_concat_of_not_subtracts {c : Completion} (h : c.subtracts = false)
    (completed : List Completion) : LastBorrows (completed ++ [c]) ↔ LastBorrows completed := by
  have hfilter : (completed ++ [c]).filter Completion.subtracts =
      completed.filter Completion.subtracts := by
    rw [List.filter_append, List.filter_singleton, h]
    exact List.append_nil _
  unfold LastBorrows
  rw [hfilter]

/-- A subtraction is the last one. -/
lemma lastBorrows_concat_of_subtracts {c : Completion} (h : c.subtracts = true)
    (completed : List Completion) : LastBorrows (completed ++ [c]) ↔ c.Borrows := by
  have hlast : ((completed ++ [c]).filter Completion.subtracts).getLast? = some c := by
    rw [List.filter_append, List.filter_singleton, h]
    exact List.getLast?_concat
  unfold LastBorrows
  rw [hlast]
  simp

/-- The last instruction decides whether the instructions end in a halt. -/
lemma endsInHalt_concat (completed : List Completion) (c : Completion) :
    EndsInHalt (completed ++ [c]) ↔ c.instruction = .hlt := by
  unfold EndsInHalt
  rw [List.getLast?_concat]
  simp

/-- The negative flag, the count of cycles and the halt are accounted for by the instructions
completed since power-on. -/
structure Accounts (completed : List Completion) (r : Registers) : Prop where
  neg : r.neg = true ↔ LastBorrows completed
  cycles : r.cycles = completed.length
  halted : r.halted = true ↔ EndsInHalt completed

/-- At power-on nothing has been completed. -/
lemma accounts_nil : Accounts [] {} := by
  refine ⟨iff_of_false Bool.false_ne_true ?_, rfl, iff_of_false Bool.false_ne_true ?_⟩
  · rintro ⟨c, hlast, -⟩
    cases hlast
  · rintro ⟨c, hlast, -⟩
    cases hlast

/-- A completed instruction goes on account. -/
lemma Accounts.concat {completed : List Completion} {c : Completion}
    (h : Accounts completed c.before.registers) :
    Accounts (completed ++ [c]) c.after.registers := by
  refine ⟨?_, ?_, ?_⟩
  · cases hsub : c.subtracts with
    | false =>
      rw [lastBorrows_concat_of_not_subtracts hsub, c.neg_after_of_not_subtracts hsub]
      exact h.neg
    | true =>
      rw [lastBorrows_concat_of_subtracts hsub]
      exact c.neg_after_iff_of_subtracts hsub
  · rw [c.cycles_after, h.cycles, List.length_append, List.length_singleton]
    push_cast
    rfl
  · rw [endsInHalt_concat]
    exact c.halted_after_iff

/-- Other registers that agree in the three are accounted for in the same way. -/
lemma Accounts.congr {completed : List Completion} {r r' : Registers} (h : Accounts completed r)
    (hneg : r'.neg = r.neg) (hcycles : r'.cycles = r.cycles) (hhalted : r'.halted = r.halted) :
    Accounts completed r' :=
  ⟨hneg ▸ h.neg, hcycles ▸ h.cycles, hhalted ▸ h.halted⟩

/-! ### Requests and the registers -/

section

variable {m : Machine} {request : Request}

/-- A restart that is not refused puts the registers back to power-on. -/
lemma handle_registers_of_isRestart (h : request.isRestart = true)
    (hok : (m.handle request).2.isOk = true) : (m.handle request).1.registers = {} := by
  have hexecution : request.isExecution = false := by
    cases request with
    | step | run budget => cases h
    | _ => rfl
  have hcases := m.handle_cases hexecution
  rw [hok] at hcases
  generalize (m.handle request).1 = after at hcases
  cases hcases with
  | told request query => cases request <;> cases query <;> cases h
  | load | loadText | reset | resetRegisters => rfl
  | _ => cases h

/-- A request that neither executes nor restarts, and assigns no register, leaves the registers as
they were. -/
lemma handle_registers_of_other (hexecution : request.isExecution = false)
    (hrestart : (request.isRestart && (m.handle request).2.isOk) = false)
    (hassign : request.isAssignment = false) : (m.handle request).1.registers = m.registers := by
  have hcases := m.handle_cases hexecution
  generalize (m.handle request).2.isOk = ok at hcases hrestart
  generalize (m.handle request).1 = after at hcases
  cases hcases with
  | load | loadText | reset | resetRegisters => cases hrestart
  | assign a => cases hassign
  | _ => rfl

end

/-! ### Sessions -/

/-- In sessions without an assignment the registers are accounted for. -/
lemma isKept_accounts : IsKept (fun request => request.isAssignment = false)
    fun past m => Accounts (sinceRestart past) m.registers where
  completion past c h := by
    rw [sinceRestart_completion]
    exact h.concat
  failure past m f hstep h := by
    rw [registers_eq_of_step_error hstep]
    exact h.congr rfl rfl rfl
  note past m e h := h
  restart past m request hassign hrestart hok h := by
    rw [sinceRestart_restart, handle_registers_of_isRestart hrestart hok]
    exact accounts_nil
  other past m request hassign hexecution hrestart h := by
    rw [handle_registers_of_other hexecution hrestart hassign]
    exact h

/-- In sessions without an assignment a machine can operate. -/
lemma isKept_operable : IsKept (fun request => request.isAssignment = false)
    fun _ m => m.Operable where
  completion past c h := by
    have hafter : c.after = c.before.step.1 := (congrArg Prod.fst c.step).symm
    rw [hafter]
    exact h.step
  failure past m f hstep h := h.step
  note past m e h := h.congr rfl rfl rfl
  restart past m request hassign hrestart hok h := h.handle hassign
  other past m request hassign hexecution hrestart h := h.handle hassign

section

variable {requests : List Request}

/-- After a session on a new machine, and before every instruction that was completed in it, the
registers are accounted for by the instructions completed since power-on. -/
theorem accounts_session (hassign : ∀ request ∈ requests, request.isAssignment = false) :
    Accounts (sinceRestart (chronicle {} requests)) (session {} requests).registers ∧
      ∀ earlier (c : Completion) later, chronicle {} requests = earlier ++ .completion c :: later →
        Accounts (sinceRestart earlier) c.before.registers :=
  isKept_accounts.throughout hassign accounts_nil

/-- A branch on the negative flag is completed wherever it is executed. -/
lemma exists_completion_of_brp {m : Machine} {a : Int} (running : m.registers.halted = false)
    (carried : m.next? = some (.brp a)) : ∃ c, m.completion? = some c := by
  obtain ⟨word, hread, hdecode⟩ := (m.next?_eq_some_iff _).mp carried
  have hstep : m.step = ((m.fetched word).perform (.brp a)).1.complete (m.registers.cycles + 1) :=
    step_of_decode? running hread hdecode
  obtain ⟨stop, hstop⟩ : ∃ stop, m.step.2 = .ok stop := by
    rw [hstep]
    exact ⟨_, complete_stop _ _⟩
  obtain ⟨c, hc, -⟩ := exists_completion_of_step running (Prod.ext rfl hstop)
  exact ⟨c, hc⟩

/-- In a session on a new machine in which no register is assigned, the negative flag is set at the
end, and before every instruction on the way, exactly if a subtraction has been completed since the
registers were last put back to power-on and the last of these was of a word larger than the
accumulator. Every subtraction leaves the difference modulo a thousand. Every branch on the negative
flag is completed, and it is taken exactly if the last subtraction was not of a larger word. -/
theorem session_neg_iff (hassign : ∀ request ∈ requests, request.isAssignment = false) :
    ((session {} requests).registers.neg = true ↔
      LastBorrows (sinceRestart (chronicle {} requests))) ∧
    (∀ earlier (c : Completion) later, chronicle {} requests = earlier ++ .completion c :: later →
      (c.before.registers.neg = true ↔ LastBorrows (sinceRestart earlier)) ∧
      (∀ a, c.instruction = .sub a → ∃ cell, c.before.memory.read a = .ok cell ∧
        c.after.registers.acc = (c.before.registers.acc - cell) % 1000) ∧
      (∀ a, c.instruction = .brp a →
        (¬ LastBorrows (sinceRestart earlier) → c.after.registers.pc = a) ∧
        (LastBorrows (sinceRestart earlier) →
          c.after.registers.pc = (c.before.registers.pc + 1) % 100))) ∧
    ∀ (m : Machine) (a : Int), m.registers.halted = false → m.next? = some (.brp a) →
      ∃ c, m.completion? = some c := by
  obtain ⟨hend, hbefore⟩ := accounts_session hassign
  refine ⟨hend.neg, fun earlier c later heq => ?_, fun m a => exists_completion_of_brp⟩
  have hneg := (hbefore earlier c later heq).neg
  refine ⟨hneg, fun a ha => ?_, fun a ha => ?_⟩
  · have hoperable := (isKept_operable.throughout hassign inRange_new.toOperable).2
    exact c.acc_after_of_sub (hoperable earlier c later heq) ha
  · rw [c.pc_after_of_brp ha, ← hneg]
    exact ⟨fun hclear => if_neg hclear, fun hset => if_pos hset⟩

/-- A session in which a program is refused, another one subtracts a larger word and then fails, and
the memory is cleared behind it. -/
theorem session_neg_iff_borrowed :
    LastBorrows (sinceRestart (chronicle {} [.load [.absent], .load [.integer 205, .integer 901,
      .integer 800, .integer 0, .integer 0, .integer 7], .run 4, .load [.integer 1000],
      .clearMemory])) :=
  (session_neg_iff (by decide)).1.mp (by decide)

/-- A machine that has halted keeps its registers until they are put back to power-on. -/
lemma session_registers_of_halted {m : Machine} (halted : m.registers.halted = true)
    (hassign : ∀ request ∈ requests, request.isAssignment = false)
    (hrestart : Occurrence.restart ∉ m.chronicle requests) :
    (m.session requests).registers = m.registers := by
  induction requests generalizing m with
  | nil => rfl
  | cons request rest ih =>
    rw [chronicle, List.mem_append, not_or] at hrestart
    obtain ⟨hnow, hlater⟩ := hrestart
    have hrequest := hassign request List.mem_cons_self
    have hrest := fun r hr => hassign r (List.mem_cons_of_mem request hr)
    have hsame : (m.handle request).1.registers = m.registers := by
      cases hexecution : request.isExecution with
      | true =>
        cases request with
        | step => rw [handle_step, step_of_halted halted]
        | run budget => rw [handle_run, run_fst_of_halted halted]
        | _ => cases hexecution
      | false =>
        refine handle_registers_of_other hexecution (Bool.eq_false_iff.mpr fun hok => ?_) hrequest
        rw [occurrences_of_not_isExecution hexecution, if_pos hok] at hnow
        exact hnow List.mem_cons_self
    rw [session, ih (hsame ▸ halted) hrest hlater, hsame]

/-- In a session on a new machine in which no register is assigned, the count of cycles is, at the
end and before every instruction on the way, the number of instructions completed since the
registers were last put back to power-on, and the machine has halted exactly if the last of them is
a halt. A run that comes to an end counts the instructions that it reports, and these are within its
budget. While a machine has halted, until its registers are put back to power-on, steps and runs
report the halt and change nothing at all. A run with a negative budget is refused and changes
nothing. -/
theorem session_cycles_halted (hassign : ∀ request ∈ requests, request.isAssignment = false) :
    ((session {} requests).registers.cycles = (sinceRestart (chronicle {} requests)).length ∧
      ((session {} requests).registers.halted = true ↔
        EndsInHalt (sinceRestart (chronicle {} requests)))) ∧
    (∀ earlier (c : Completion) later, chronicle {} requests = earlier ++ .completion c :: later →
      c.before.registers.cycles = (sinceRestart earlier).length ∧
      (c.before.registers.halted = true ↔ EndsInHalt (sinceRestart earlier))) ∧
    (∀ (m : Machine) (n : Int) (r : Run), (m.run n).2 = .ok r →
      (m.run n).1.registers.cycles = m.registers.cycles + r.executed ∧ r.executed ≤ n) ∧
    (∀ (m : Machine) (later : List Request), m.registers.halted = true →
      (∀ request ∈ later, request.isAssignment = false) →
      Occurrence.restart ∉ m.chronicle later →
        (m.session later).registers = m.registers ∧
        (m.session later).step = (m.session later, .ok (some .halt)) ∧
        ∀ n : Nat, (m.session later).run n = (m.session later, .ok ⟨.halt, 0⟩)) ∧
    ∀ (m : Machine) (n : Int), n < 0 → m.run n = (m, .error (.negativeBudget n)) := by
  obtain ⟨hend, hbefore⟩ := accounts_session hassign
  refine ⟨⟨hend.cycles, hend.halted⟩, fun earlier c later heq => ?_, fun m n r => run_counts,
    fun m later halted hlater hrestart => ?_, fun m n => run_of_neg m⟩
  · have haccounts := hbefore earlier c later heq
    exact ⟨haccounts.cycles, haccounts.halted⟩
  · have hsame := session_registers_of_halted halted hlater hrestart
    have hhalted : (m.session later).registers.halted = true := hsame ▸ halted
    exact ⟨hsame, step_of_halted hhalted, run_of_halted hhalted⟩

/-- A session with a run that is out of budget, a step that halts, a step and a run of the halted
machine, and a write into its memory. -/
theorem session_cycles_halted_resting :
    EndsInHalt (sinceRestart (chronicle {} [.load [.integer 101, .integer 600], .run 3,
      .write 1 0, .step, .step, .run 5, .write 0 901])) :=
  (session_cycles_halted (by decide)).1.2.mp (by decide)

end

end Machine

end LittleMan
