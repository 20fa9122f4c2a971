import LittleMan.Proofs.Machine.Lockstep
import LittleMan.Proofs.Machine.Stores

/-!
# What a run looks at

A step looks at no more than two mailboxes: the one its instruction is fetched from, and for an
addition, a subtraction or a load the operand (`Machine.looksAt`). A store is not a look, for the
word that was there does not matter to it. What a run looks at is only known from the run itself,
since the words that it stores can be instructions by the time they are fetched
(`Machine.lookedAt`).

Machines that agree on these mailboxes, on their registers and on their trays do the same step and
still agree on them afterwards (`AgreeOn.step`): a word that is stored is the same on both sides.
So they agree all the way (`isPaced_agreeOn`) and make the same run (`run_agreeOn`). They store the
same words (`stores_eq`), so that they also agree on every mailbox that the run stored to.
-/

namespace LittleMan

/-- The mailbox that an instruction reads. -/
def Instruction.source? : Instruction → Option Int
  | add a | sub a | lda a => some a
  | _ => none

/-! ### Memories that agree -/

/-- Memories that have the same words in some of their mailboxes, and the same watchers, who do not
mind which word was there before a write. -/
structure Memory.AgreeOn (addresses : List Int) (m m' : Memory) : Prop where
  watchers : m.watchers = m'.watchers
  blind : ∀ a w, (a, w) ∈ m.watchers → ∀ old old' new,
    w.objection? a old new = w.objection? a old' new
  length_eq : m.cells.length = 100
  length_eq' : m'.cells.length = 100
  read : ∀ a ∈ addresses, m.read a = m'.read a

/-- Nor does the first objection of such watchers go by that word. -/
lemma Memory.AgreeOn.objection?_eq {addresses : List Int} {m m' : Memory}
    (h : m.AgreeOn addresses m') (a old old' new : Int) :
    objection? a old new (m.watchersOf a) = objection? a old' new (m'.watchersOf a) := by
  have hwatchers : m'.watchersOf a = m.watchersOf a := by
    unfold watchersOf
    rw [h.watchers]
  have hblind : ∀ w ∈ m.watchersOf a, w.objection? a old new = w.objection? a old' new := by
    intro w hw
    obtain ⟨entry, hentry, rfl⟩ := List.mem_map.mp hw
    obtain ⟨hmem, hat⟩ := List.mem_filter.mp hentry
    obtain rfl := of_decide_eq_true hat
    exact h.blind entry.1 entry.2 hmem old old' new
  rw [hwatchers]
  unfold objection?
  generalize m.watchersOf a = watchers at hblind
  induction watchers with
  | nil => rfl
  | cons w rest ih =>
    obtain ⟨hw, hrest⟩ := List.forall_mem_cons.mp hblind
    rw [List.findSome?_cons, List.findSome?_cons, hw, ih hrest]

/-- A write to such memories is refused for the same reason, or they still agree behind it. -/
lemma Memory.AgreeOn.write {addresses : List Int} {m m' : Memory} (h : m.AgreeOn addresses m')
    (a value : Int) :
    (∃ cause, (m.write a value).2 = .error cause ∧ (m'.write a value).2 = .error cause) ∨
      ∃ n n' : Memory, (m.write a value).2 = .ok n ∧ (m'.write a value).2 = .ok n' ∧
        n.AgreeOn addresses n' := by
  by_cases ha : IsAddress a
  · by_cases hvalue : IsWord value
    · rw [m.write_eq ha hvalue, m'.write_eq ha hvalue,
        ← h.objection?_eq a (m.cells.getD a.toNat 0) (m'.cells.getD a.toNat 0) value]
      cases objection? a (m.cells.getD a.toNat 0) value (m.watchersOf a) with
      | some o => exact .inl ⟨o.cause, rfl, rfl⟩
      | none =>
        refine .inr ⟨_, _, rfl, rfl, h.watchers, h.blind, ?_, ?_, ?_⟩
        · rw [List.length_set, h.length_eq]
        · rw [List.length_set, h.length_eq']
        · intro b hb
          rw [read_set h.length_eq ha, read_set h.length_eq' ha, h.read b hb]
    · refine .inl ⟨.notStorable value, ?_, ?_⟩ <;> simp [Memory.write, ha, hvalue]
  · refine .inl ⟨.noMailbox a, ?_, ?_⟩ <;> simp [Memory.write, ha]

namespace Machine

/-! ### Looking -/

/-- The mailboxes that the next step of a running machine looks at. -/
def looksAt (m : Machine) : List Int :=
  m.registers.pc :: (m.next?.bind Instruction.source?).toList

/-- The mailboxes that a run looks at within a budget, also in a step that fails. -/
def lookedAt : Nat → Machine → List Int
  | 0, _ => []
  | budget + 1, m =>
    if m.registers.halted then []
    else m.looksAt ++ match m.step with
      | (after, .ok _) => lookedAt budget after
      | (_, .error _) => []

/-- Machines that differ at most in their records and in the mailboxes beyond `addresses`. -/
structure AgreeOn (addresses : List Int) (m m' : Machine) : Prop where
  registers : m.registers = m'.registers
  input : m.input = m'.input
  output : m.output = m'.output
  memory : m.memory.AgreeOn addresses m'.memory

section

variable {addresses : List Int} {m m' : Machine}

/-! ### A step -/

lemma AgreeOn.setAcc (h : AgreeOn addresses m m') (value : Int) :
    AgreeOn addresses (m.setAcc value) (m'.setAcc value) where
  registers := by
    unfold Machine.setAcc
    rw [h.registers]
  input := h.input
  output := h.output
  memory := h.memory

lemma AgreeOn.setPc (h : AgreeOn addresses m m') (address : Int) :
    AgreeOn addresses (m.setPc address) (m'.setPc address) where
  registers := by
    unfold Machine.setPc
    rw [h.registers]
  input := h.input
  output := h.output
  memory := h.memory

lemma AgreeOn.setDifference (h : AgreeOn addresses m m') (raw : Int) :
    AgreeOn addresses (m.setDifference raw) (m'.setDifference raw) where
  registers := by simp only [setDifference_registers, h.registers]
  input := by simp only [setDifference_input, h.input]
  output := by simp only [setDifference_output, h.output]
  memory := by
    simp only [setDifference_memory]
    exact h.memory

lemma AgreeOn.fetched (h : AgreeOn addresses m m') (word : Int) :
    AgreeOn addresses (m.fetched word) (m'.fetched word) where
  registers := by simp only [fetched_registers, h.registers]
  input := by simp only [fetched_input, h.input]
  output := by simp only [fetched_output, h.output]
  memory := by
    simp only [fetched_memory]
    exact h.memory

lemma AgreeOn.fail (h : AgreeOn addresses m m') (address cycle : Int) (cause : Fault.Cause) :
    AgreeOn addresses (m.fail address cycle cause).1 (m'.fail address cycle cause).1 where
  registers := by simp only [fail_registers, h.registers]
  input := by simp only [fail_input, h.input]
  output := by simp only [fail_output, h.output]
  memory := by
    simp only [fail_memory]
    exact h.memory

lemma AgreeOn.complete (h : AgreeOn addresses m m') (cycle : Int) :
    AgreeOn addresses (m.complete cycle).1 (m'.complete cycle).1 where
  registers := by simp only [complete_registers, h.registers]
  input := by simp only [complete_input, h.input]
  output := by simp only [complete_output, h.output]
  memory := by
    simp only [complete_memory]
    exact h.memory

/-- They do the same with the word of a mailbox on which they agree. -/
lemma AgreeOn.onWord (h : AgreeOn addresses m m') {a : Int} (ha : a ∈ addresses)
    {act act' : Int → Machine} (hact : ∀ word, AgreeOn addresses (act word) (act' word)) :
    AgreeOn addresses (m.onWord a act).1 (m'.onWord a act').1 ∧
      (m.onWord a act).2 = (m'.onWord a act').2 := by
  unfold Machine.onWord
  rw [← h.memory.read a ha]
  cases m.memory.read a with
  | error cause => exact ⟨h, rfl⟩
  | ok word => exact ⟨hact word, rfl⟩

/-- They store the same word, or neither does. -/
lemma AgreeOn.perform_sto (h : AgreeOn addresses m m') (a : Int) :
    AgreeOn addresses (m.perform (.sto a)).1 (m'.perform (.sto a)).1 ∧
      (m.perform (.sto a)).2 = (m'.perform (.sto a)).2 := by
  have hwrite := h.memory.write a m.registers.acc
  simp only [Machine.perform_sto, ← h.registers]
  generalize m.memory.write a m.registers.acc = written at hwrite
  generalize m'.memory.write a m.registers.acc = written' at hwrite
  obtain ⟨calls, outcome⟩ := written
  obtain ⟨calls', outcome'⟩ := written'
  rcases hwrite with ⟨cause, rfl, rfl⟩ | ⟨n, n', rfl, rfl, hstored⟩
  · exact ⟨⟨h.registers, h.input, h.output, h.memory⟩, rfl⟩
  · exact ⟨⟨h.registers, h.input, h.output, hstored⟩, rfl⟩

/-- An instruction does the same on both sides if they agree on the mailbox that it reads. -/
lemma AgreeOn.perform (h : AgreeOn addresses m m') (i : Instruction)
    (hsource : ∀ a, i.source? = some a → a ∈ addresses) :
    AgreeOn addresses (m.perform i).1 (m'.perform i).1 ∧ (m.perform i).2 = (m'.perform i).2 := by
  cases i with
  | sto a => exact h.perform_sto a
  | add a =>
    apply h.onWord (hsource a rfl)
    intro word
    rw [h.registers]
    exact h.setAcc _
  | sub a =>
    apply h.onWord (hsource a rfl)
    intro word
    rw [h.registers]
    exact h.setDifference _
  | lda a => exact h.onWord (hsource a rfl) fun word => h.setAcc word
  | br a => exact ⟨h.setPc a, rfl⟩
  | brz a =>
    simp only [Machine.perform, ← h.registers, and_true]
    split
    · exact h.setPc a
    · exact h
  | brp a =>
    simp only [Machine.perform, ← h.registers, and_true]
    split
    · exact h
    · exact h.setPc a
  | inp =>
    simp only [Machine.perform, ← h.input]
    cases m.input.pop with
    | error cause => exact ⟨h, rfl⟩
    | ok popped =>
      obtain ⟨value, input⟩ := popped
      have hpopped : AgreeOn addresses { m with input } { m' with input } :=
        ⟨h.registers, rfl, h.output, h.memory⟩
      exact ⟨hpopped.setAcc value, rfl⟩
  | out =>
    refine ⟨⟨h.registers, h.input, ?_, h.memory⟩, rfl⟩
    simp only [Machine.perform, note_output, h.output, h.registers]
  | hlt =>
    refine ⟨⟨?_, h.input, h.output, h.memory⟩, rfl⟩
    simp only [Machine.perform, h.registers]

/-- Machines that agree on what the one looks at do the same step. -/
theorem AgreeOn.step (h : AgreeOn addresses m m') (running : m.registers.halted = false)
    (hlooks : m.looksAt ⊆ addresses) :
    AgreeOn addresses m.step.1 m'.step.1 ∧ m.step.2 = m'.step.2 := by
  have running' : m'.registers.halted = false := by rw [← h.registers, running]
  have hfetch : m'.memory.read m'.registers.pc = m.memory.read m.registers.pc := by
    rw [← h.registers]
    exact (h.memory.read m.registers.pc (hlooks List.mem_cons_self)).symm
  cases read : m.memory.read m.registers.pc with
  | error cause =>
    rw [read] at hfetch
    rw [step_of_read_error running read, step_of_read_error running' hfetch, ← h.registers]
    exact ⟨h.fail _ _ cause, rfl⟩
  | ok word =>
    rw [read] at hfetch
    cases decode : Instruction.decode? word with
    | none =>
      rw [step_of_decode?_none running read decode, step_of_decode?_none running' hfetch decode,
        advanced, advanced, ← h.registers]
      exact ⟨(h.setPc _).fail _ _ _, rfl⟩
    | some i =>
      have hnext : m.next? = some i := (m.next?_eq_some_iff i).mpr ⟨word, read, decode⟩
      have hsource : ∀ a, i.source? = some a → a ∈ addresses := by
        intro a ha
        apply hlooks
        rw [looksAt, hnext, Option.bind_some, ha]
        exact List.mem_cons_of_mem _ List.mem_cons_self
      obtain ⟨hafter, hcause⟩ := (h.fetched word).perform i hsource
      rw [step_of_decode? running read decode, step_of_decode? running' hfetch decode,
        ← h.registers]
      generalize (m.fetched word).perform i = performed at hafter hcause
      generalize (m'.fetched word).perform i = performed' at hafter hcause
      obtain ⟨after, cause⟩ := performed
      obtain ⟨after', cause'⟩ := performed'
      obtain rfl : cause = cause' := hcause
      cases cause with
      | some cause => exact ⟨hafter.fail _ _ cause, rfl⟩
      | none =>
        refine ⟨hafter.complete _, ?_⟩
        rw [complete_stop, complete_stop, hafter.registers]

/-! ### A run -/

/-- A run looks at what its first step looks at. -/
lemma looksAt_subset_lookedAt (running : m.registers.halted = false) (n : Nat) :
    m.looksAt ⊆ lookedAt (n + 1) m := by
  simp only [lookedAt, running, Bool.false_eq_true, if_false]
  exact List.subset_append_left _ _

/-- It looks at what is looked at after a step that is completed. -/
lemma lookedAt_subset_of_step {next : Machine} {stop : Option Stop}
    (running : m.registers.halted = false) (step : m.step = (next, .ok stop)) (n : Nat) :
    lookedAt n next ⊆ lookedAt (n + 1) m := by
  simp only [lookedAt, running, Bool.false_eq_true, if_false, step]
  exact List.subset_append_right _ _

/-- Machines that agree on all that the one still looks at keep doing the same. -/
lemma isPaced_agreeOn (addresses : List Int) : IsPaced (fun _ => False)
    fun n m m' => AgreeOn addresses m m' ∧ lookedAt n m ⊆ addresses where
  registers n m m' h := h.1.registers
  note := by
    intro m m' e h
    obtain ⟨hagree, -⟩ := h
    exact ⟨⟨hagree.registers, hagree.input, hagree.output, hagree.memory⟩, List.nil_subset _⟩
  completed := by
    intro n m m' next stop h running step
    obtain ⟨hagree, hlooked⟩ := h
    have hlooks := List.Subset.trans (looksAt_subset_lookedAt running n) hlooked
    obtain ⟨hnext, houtcome⟩ := hagree.step running hlooks
    rw [step] at hnext houtcome
    have hrest := List.Subset.trans (lookedAt_subset_of_step running step n) hlooked
    exact ⟨m'.step.1, Prod.ext rfl houtcome.symm, hnext, hrest⟩
  failed := by
    intro n m m' after f h step _
    obtain ⟨hagree, hlooked⟩ := h
    have running := running_of_step_error step
    have hlooks := List.Subset.trans (looksAt_subset_lookedAt running n) hlooked
    obtain ⟨hafter, houtcome⟩ := hagree.step running hlooks
    rw [step] at hafter houtcome
    exact ⟨m'.step.1, Prod.ext rfl houtcome.symm, hafter, List.nil_subset _⟩

/-- Machines that agree on all that the one looks at make the same run, and still agree on it. -/
theorem run_agreeOn {n : Int} (h : AgreeOn (lookedAt n.toNat m) m m') :
    AgreeOn (lookedAt n.toNat m) (m.run n).1 (m'.run n).1 ∧ (m.run n).2 = (m'.run n).2 := by
  have hpaced := isPaced_agreeOn (lookedAt n.toNat m)
  obtain ⟨⟨-, hafter, -⟩, houtcome⟩ := hpaced.run ⟨h, List.Subset.refl _⟩ fun _ _ => id
  exact ⟨hafter, houtcome⟩

/-! ### What is stored -/

/-- A completed instruction comes first of the stores, if it stores. -/
lemma stores_succ {c : Completion} (h : m.completion? = some c) (n : Nat) :
    stores (n + 1) m = c.store?.toList ++ stores n c.after := by
  unfold stores
  simp only [completions, h, List.filterMap_cons]
  cases c.store? <;> rfl

/-- Machines that agree on where the next instruction is fetched from store the same word, if they
store one. -/
lemma AgreeOn.store?_eq {c c' : Completion} (h : AgreeOn addresses c.before c'.before)
    (hfetch : c.before.registers.pc ∈ addresses) : c.store? = c'.store? := by
  have hnext : c.before.next? = c'.before.next? := by
    unfold next?
    rw [← h.registers, h.memory.read _ hfetch]
  have hinstruction : c.instruction = c'.instruction := by
    rw [c.carried, c'.carried] at hnext
    exact Option.some.inj hnext
  unfold Completion.store?
  rw [hinstruction, h.registers]

/-- Machines that agree on all that the one looks at store the same words. -/
theorem AgreeOn.stores_eq {n : Nat} (h : AgreeOn addresses m m')
    (hlooked : lookedAt n m ⊆ addresses) : stores n m = stores n m' := by
  induction n generalizing m m' with
  | zero => rfl
  | succ n ih =>
    cases running : m.registers.halted with
    | true =>
      have running' : m'.registers.halted = true := by rw [← h.registers, running]
      unfold stores
      rw [completions_of_halted running, completions_of_halted running']
    | false =>
      have running' : m'.registers.halted = false := by rw [← h.registers, running]
      have hlooks := List.Subset.trans (looksAt_subset_lookedAt running n) hlooked
      obtain ⟨hafter, houtcome⟩ := h.step running hlooks
      rcases hstep : m.step with ⟨next, f | stop⟩
      · rw [hstep] at houtcome
        have hstep' : m'.step = (m'.step.1, .error f) := Prod.ext rfl houtcome.symm
        unfold stores
        rw [completions_of_error hstep, completions_of_error hstep']
      · rw [hstep] at houtcome hafter
        have hstep' : m'.step = (m'.step.1, .ok stop) := Prod.ext rfl houtcome.symm
        obtain ⟨c, hc, rfl, rfl⟩ := exists_completion_of_step running hstep
        obtain ⟨c', hc', rfl, hnext'⟩ := exists_completion_of_step running' hstep'
        rw [← hnext'] at hafter
        have hrest := List.Subset.trans (lookedAt_subset_of_step running hstep n) hlooked
        rw [stores_succ hc, stores_succ hc', h.store?_eq (hlooks List.mem_cons_self),
          ih hafter hrest]

/-- So they agree behind the run on every mailbox that the run stored to. -/
theorem AgreeOn.read_run {n : Int} (h : AgreeOn (lookedAt n.toNat m) m m') {a : Int}
    (ha : a ∈ lookedAt n.toNat m ∨ ∃ s ∈ stores n.toNat m, s.address = a) :
    (m.run n).1.memory.read a = (m'.run n).1.memory.read a := by
  rcases ha with ha | ha
  · obtain ⟨hafter, -⟩ := run_agreeOn h
    exact hafter.memory.read a ha
  · have hstores := h.stores_eq (List.Subset.refl _)
    have htold := (isToldBy_run h.memory.length_eq n).memory
    have htold' := (isToldBy_run h.memory.length_eq' n).memory
    unfold stores at hstores ha
    rw [hstores] at htold ha
    exact htold.read_eq htold' ha

end

end Machine

end LittleMan
