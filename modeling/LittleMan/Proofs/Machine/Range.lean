import LittleMan.Proofs.Machine.Handle
import LittleMan.Proofs.Memory
import LittleMan.Proofs.Text.Limit

/-!
# The range of the machine

Every number in a machine stays in its range. The mailboxes and the input tray hold words whatever
is done to the machine (`StoresWords`), since whatever is put there is checked. The accumulator
holds a word and the counter an address (`Operable`), and the output tray holds words and the count
is not negative (`InRange`), as long as nothing is put there past the checks: only an assignment to
a register and a value pushed on the output tray can do that (`Request.isUnchecked`).

The main statement is `session_inRange`. It also says what remains to go wrong in a step of a
machine in range.
-/

namespace LittleMan

namespace Machine

/-- The mailboxes and the input tray hold words. -/
structure StoresWords (m : Machine) : Prop where
  memory : m.memory.HoldsWords
  pending : ∀ w ∈ m.input.pending, IsWord w

/-- Moreover the accumulator holds a word and the counter an address. -/
structure Operable (m : Machine) : Prop extends StoresWords m where
  acc : IsWord m.registers.acc
  pc : IsAddress m.registers.pc

/-- Moreover the output tray holds words and the count of cycles is not negative. -/
structure InRange (m : Machine) : Prop extends Operable m where
  outputs : ∀ w ∈ m.outputs, IsWord w
  cycles : 0 ≤ m.registers.cycles

/-- A new machine is in range. -/
lemma inRange_new : InRange {} := by
  refine ⟨⟨⟨Memory.holdsWords_of_zeros [], ?_⟩, by decide, by decide⟩, ?_, Int.le_refl 0⟩
  · exact fun w hw => absurd hw List.not_mem_nil
  · exact fun w hw => absurd hw List.not_mem_nil

/-! ### Instructions -/

section

variable {m : Machine}

/-- Whatever an instruction does, it leaves words in the mailboxes and on the input tray. -/
lemma StoresWords.perform (h : m.StoresWords) (i : Instruction) : (m.perform i).1.StoresWords := by
  have hcases := m.perform_cases i
  generalize m.perform i = r at hcases
  cases hcases with
  | sto a calls memory write => exact ⟨h.memory.of_write write, h.pending⟩
  | inp value input pop =>
    exact ⟨h.memory, fun w hw => h.pending w (InputTray.mem_pending_of_pop pop w hw)⟩
  | sub a word read =>
    refine ⟨?_, ?_⟩
    · rw [setDifference_memory]
      exact h.memory
    · rw [setDifference_input]
      exact h.pending
  | _ => exact ⟨h.memory, h.pending⟩

/-- The accumulator holds a word after any instruction. -/
lemma Operable.isWord_perform (h : m.Operable) (i : Instruction) :
    IsWord (m.perform i).1.registers.acc := by
  have hcases := m.perform_cases i
  generalize m.perform i = r at hcases
  cases hcases with
  | add a word read => exact isWord_emod _
  | sub a word read =>
    obtain ⟨hacc, hacc'⟩ := h.acc
    obtain ⟨hword, hword'⟩ := h.memory.isWord_of_read read
    rw [setDifference_registers]
    unfold IsWord
    dsimp only
    split <;> omega
  | lda a word read => exact h.memory.isWord_of_read read
  | inp value input pop =>
    refine h.pending value ?_
    rw [(m.input.pop_eq_ok_iff input value).mp pop]
    exact List.mem_cons_self
  | _ => exact h.acc

/-- An instruction on an address leaves a word in the accumulator and an address in the counter. -/
lemma Operable.perform (h : m.Operable) {i : Instruction}
    (hi : ∀ a, i.operand? = some a → IsAddress a) : (m.perform i).1.Operable := by
  refine ⟨h.toStoresWords.perform i, h.isWord_perform i, ?_⟩
  have hcases := m.perform_cases i
  generalize m.perform i = r at hcases
  cases hcases with
  | sub a word read =>
    rw [setDifference_registers]
    exact h.pc
  | br a => exact hi a rfl
  | brz a zero => exact hi a rfl
  | brp a positive => exact hi a rfl
  | _ => exact h.pc

/-- An instruction writes words only, and it does not count by itself. -/
lemma InRange.perform (h : m.InRange) {i : Instruction}
    (hi : ∀ a, i.operand? = some a → IsAddress a) : (m.perform i).1.InRange := by
  suffices hrest : (∀ w ∈ (m.perform i).1.outputs, IsWord w) ∧
      (m.perform i).1.registers.cycles = m.registers.cycles from
    ⟨h.toOperable.perform hi, hrest.1, hrest.2.symm ▸ h.cycles⟩
  have hcases := m.perform_cases i
  generalize m.perform i = r at hcases
  cases hcases with
  | out =>
    refine ⟨fun w hw => ?_, rfl⟩
    dsimp only [Machine.outputs] at hw
    rw [note_output, OutputTray.toList_push] at hw
    rcases List.mem_append.mp hw with hw | hw
    · exact h.outputs w hw
    · exact List.mem_singleton.mp hw ▸ h.acc
  | sub a word read =>
    dsimp only [Machine.outputs]
    rw [setDifference_output, setDifference_registers]
    exact ⟨h.outputs, rfl⟩
  | _ => exact ⟨h.outputs, rfl⟩

/-- The cause is what a watcher raises when it objects to a write into the mailbox that it
watches. -/
def IsObjection (m : Machine) (cause : Fault.Cause) : Prop :=
  ∃ (a : Int) (w : Watcher) (old new : Int) (o : Objection), (a, w) ∈ m.memory.watchers ∧
    w.objection? a old new = some o ∧ cause = o.cause

/-- An instruction on an address fails for want of an input or by an objection, and in no other
way. -/
lemma Operable.cause_of_perform (h : m.Operable) {i : Instruction} {after : Machine}
    {cause : Fault.Cause} (hi : ∀ a, i.operand? = some a → IsAddress a)
    (hperform : m.perform i = (after, some cause)) :
    cause = .trayEmpty ∨ m.IsObjection cause := by
  have hcases := m.perform_cases i
  rw [hperform] at hcases
  cases hcases with
  | unread i a cause reads read =>
    exact absurd (hi a reads) ((m.memory.read_eq_error_iff a cause).mp read).1
  | unwritten a calls cause write =>
    have hwrite := m.memory.write_cases a m.registers.acc
    rw [write] at hwrite
    cases hwrite with
    | noMailbox outside => exact absurd (hi a rfl) outside
    | notStorable address outside => exact absurd h.acc outside
    | objected address word calls cause call =>
      obtain ⟨w, hw, o, hobjection, hcause⟩ := Memory.exists_objection_of_callWatchers call
      obtain ⟨entry, hentry, rfl⟩ := List.mem_map.mp hw
      obtain ⟨hmem, hat⟩ := List.mem_filter.mp hentry
      obtain rfl := of_decide_eq_true hat
      exact Or.inr ⟨entry.1, entry.2, _, _, o, hmem, hobjection, hcause⟩
  | empty cause pop => exact Or.inl ((m.input.pop_eq_error_iff cause).mp pop).2

end

/-! ### Steps -/

section

variable {m : Machine}

/-- Words stored stay words stored when mailboxes and inputs do. -/
lemma StoresWords.congr (h : m.StoresWords) {m' : Machine} (hmemory : m'.memory = m.memory)
    (hinput : m'.input = m.input) : m'.StoresWords :=
  ⟨hmemory ▸ h.memory, hinput ▸ h.pending⟩

/-- Moreover with the same registers. -/
lemma Operable.congr (h : m.Operable) {m' : Machine} (hregisters : m'.registers = m.registers)
    (hmemory : m'.memory = m.memory) (hinput : m'.input = m.input) : m'.Operable :=
  ⟨h.toStoresWords.congr hmemory hinput, hregisters ▸ h.acc, hregisters ▸ h.pc⟩

/-- Moreover with the same outputs. -/
lemma InRange.congr (h : m.InRange) {m' : Machine} (hregisters : m'.registers = m.registers)
    (hmemory : m'.memory = m.memory) (hinput : m'.input = m.input)
    (houtput : m'.output = m.output) : m'.InRange := by
  refine ⟨h.toOperable.congr hregisters hmemory hinput, ?_, hregisters ▸ h.cycles⟩
  unfold Machine.outputs
  exact houtput ▸ h.outputs

/-- Other registers will do if they are in range. -/
lemma Operable.withRegisters (h : m.Operable) {registers : Registers}
    (hacc : IsWord registers.acc) (hpc : IsAddress registers.pc) :
    { m with registers }.Operable :=
  ⟨h.toStoresWords.congr rfl rfl, hacc, hpc⟩

/-- Other registers will do if they are in range. -/
lemma InRange.withRegisters (h : m.InRange) {registers : Registers}
    (hacc : IsWord registers.acc) (hpc : IsAddress registers.pc) (hcycles : 0 ≤ registers.cycles) :
    { m with registers }.InRange :=
  ⟨h.toOperable.withRegisters hacc hpc, h.outputs, hcycles⟩

/-- A machine that has fetched a word can still operate. -/
lemma Operable.fetched (h : m.Operable) (word : Int) : (m.fetched word).Operable := by
  refine ⟨h.toStoresWords.congr (m.fetched_memory word) (m.fetched_input word), ?_, ?_⟩
  · rw [fetched_registers]
    exact h.acc
  · rw [fetched_registers]
    exact isAddress_emod (m.registers.pc + 1)

/-- A step leaves words in the mailboxes and on the input tray. -/
lemma StoresWords.step (h : m.StoresWords) : m.step.1.StoresWords :=
  step_induction
    (fun m e h => h.congr (m.tell_memory e) (m.tell_input e))
    (fun _ _ h => h.congr rfl rfl)
    (fun _ h => h.congr rfl rfl)
    (fun _ i _ h => h.perform i)
    (fun _ h => h.congr rfl rfl) h

/-- A step leaves a word in the accumulator and an address in the counter. -/
lemma Operable.step (h : m.Operable) : m.step.1.Operable :=
  step_induction
    (fun m e h => h.congr (m.tell_registers e) (m.tell_memory e) (m.tell_input e))
    (fun _ _ h => h.congr rfl rfl rfl)
    (fun _ h => h.withRegisters h.acc (isAddress_emod _))
    (fun _ _ hi h => h.perform hi)
    (fun _ h => h.withRegisters h.acc h.pc) h

/-- A step keeps a machine in range. -/
lemma InRange.step (h : m.InRange) : m.step.1.InRange :=
  step_induction
    (fun m e h => h.congr (m.tell_registers e) (m.tell_memory e) (m.tell_input e) (m.tell_output e))
    (fun _ _ h => h.congr rfl rfl rfl rfl)
    (fun _ h => h.withRegisters h.acc (isAddress_emod _) h.cycles)
    (fun _ _ hi h => h.perform hi)
    (fun _ h => h.withRegisters h.acc h.pc (Int.add_nonneg h.cycles (by decide))) h

/-- The cause is what a step may fail for: the word fetched carries no instruction, no input is
pending, or a watcher objects. -/
def MayFailFor (m : Machine) (cause : Fault.Cause) : Prop :=
  (∃ word, IsWord word ∧ cause = .noInstruction word) ∨ cause = .trayEmpty ∨ m.IsObjection cause

/-- A machine that can operate has a mailbox to fetch from and to work on, and a word to write. So
there is little that a step can fail for. -/
lemma Operable.mayFailFor_of_step (h : m.Operable) {f : Fault} (hstep : m.step.2 = .error f) :
    m.MayFailFor f.cause := by
  have hcases := m.step_cases
  generalize m.step = ended at hstep hcases
  cases hcases with
  | halted => cases hstep
  | unfetched cause running read =>
    exact absurd h.pc ((m.memory.read_eq_error_iff _ cause).mp read).1
  | undecoded word running read =>
    obtain rfl := Except.error.inj hstep
    rw [Fault.cause_ofCause]
    exact Or.inl ⟨word, h.memory.isWord_of_read read, rfl⟩
  | failed word i after cause running read decode perform =>
    obtain rfl := Except.error.inj hstep
    have hcause := (h.fetched word).cause_of_perform
      (fun _ => Instruction.isAddress_of_decode? decode) perform
    unfold IsObjection at hcause
    rw [fetched_memory] at hcause
    rw [Fault.cause_ofCause]
    exact Or.inr hcause
  | completed word i after =>
    rw [complete_stop] at hstep
    cases hstep

/-- None of these causes is a number out of range. -/
lemma MayFailFor.kind_ne {cause : Fault.Cause} (h : m.MayFailFor cause) :
    cause.kind ≠ .addressOutOfRange ∧ cause.kind ≠ .invalidWord := by
  obtain ⟨word, -, rfl⟩ | rfl | ⟨a, w, old, new, o, -, -, rfl⟩ := h
  · exact ⟨nofun, nofun⟩
  · exact ⟨nofun, nofun⟩
  · cases o with
    | veto => exact ⟨nofun, nofun⟩
    | exception => exact ⟨nofun, nofun⟩

/-- Where nobody watches, all of them make faults of the machine's own kinds. -/
lemma MayFailFor.isOwn {cause : Fault.Cause} (h : m.MayFailFor cause)
    (hunwatched : m.memory.watchers = []) : cause.isOwn = true := by
  obtain ⟨word, hword, rfl⟩ | rfl | ⟨a, w, old, new, o, hmem, -, -⟩ := h
  · exact Text.isWritable_of_isWord hword
  · rfl
  · rw [hunwatched] at hmem
    cases hmem

end

/-! ### Requests -/

/-- The request puts a value into the machine without a check. -/
def Request.isUnchecked : Request → Bool
  | .assign _ | .pushOutput _ => true
  | _ => false

/-- The request assigns a register. -/
def Request.isAssignment : Request → Bool
  | .assign _ => true
  | _ => false

/-- A machine is loaded with words or not at all. -/
lemma holdsWords_of_loadWords {memory memory' : Memory} {text : Text}
    (hload : loadWords memory text = .ok memory') : memory'.HoldsWords := by
  unfold loadWords at hload
  split at hload
  · cases hload
  · exact Memory.holdsWords_of_load hload

section

variable {P : Machine → Prop} {m : Machine} {request : Request}

/-- A request does one of few things to the range: it steps, it replaces the memory by one that
holds words if the old one did, it puts words on the input tray, it empties the output tray, or it
puts the registers back to power-on. The rest is done by the unchecked requests. -/
theorem handle_induction (hstep : ∀ m, P m → P m.step.1)
    (hcongr : ∀ m m' : Machine, P m → m'.registers = m.registers → m'.memory = m.memory →
      m'.input = m.input → m'.output = m.output → P m')
    (hmemory : ∀ (m : Machine) (memory : Memory), (m.memory.HoldsWords → memory.HoldsWords) →
      P m → P { m with memory })
    (hinput : ∀ (m : Machine) (input : InputTray),
      (∀ w ∈ input.pending, w ∈ m.input.pending ∨ IsWord w) → P m → P { m with input })
    (houtput : ∀ m : Machine, P m → P { m with output := {} })
    (hregisters : ∀ m : Machine, P m → P { m with registers := {} })
    (hunchecked : request.isUnchecked = true → P m → P (m.handle request).1) (h : P m) :
    P (m.handle request).1 := by
  have hnote (m : Machine) (e : Event) (h : P m) : P (m.note e) := hcongr m _ h rfl rfl rfl rfl
  have hempty (m : Machine) (h : P m) : P { m with input := {} } :=
    hinput m {} (fun w hw => absurd hw List.not_mem_nil) h
  cases hexecution : request.isExecution with
  | true =>
    cases request with
    | step =>
      rw [handle_step]
      exact hstep m h
    | run budget =>
      rw [handle_run]
      exact run_induction hstep hnote budget h
    | _ => cases hexecution
  | false =>
    have hcases := m.handle_cases hexecution
    generalize (m.handle request).2.isOk = ok at hcases
    generalize (m.handle request).1 = after at hcases hunchecked
    cases hcases with
    | refused => exact h
    | told => exact h
    | load image memory load =>
      exact hnote _ _ (hregisters _ (hmemory m memory (fun _ => Memory.holdsWords_of_load load) h))
    | loadText text memory load =>
      exact hnote _ _ (hregisters _ (hmemory m memory (fun _ => holdsWords_of_loadWords load) h))
    | inject inputs input inject => exact hinput m input (InputTray.mem_pending_of_inject inject) h
    | reset =>
      have htrays := houtput _ (hempty _ (hregisters m h))
      exact hcongr _ m.reset htrays rfl rfl rfl rfl
    | resetRegisters => exact hregisters m h
    | assign a => exact hunchecked rfl h
    | written a value calls memory write =>
      have hwritten : P { m with memory } := hmemory m memory (fun hm => hm.of_write write) h
      exact hcongr _ _ hwritten rfl rfl rfl rfl
    | loadMemory image memory load =>
      exact hmemory m memory (fun _ => Memory.holdsWords_of_load load) h
    | loadMemoryText text memory load =>
      exact hmemory m memory (fun _ => holdsWords_of_loadWords load) h
    | clearMemory => exact hmemory m _ (fun _ => Memory.holdsWords_of_zeros _) h
    | watch a w memory watch =>
      obtain ⟨-, rfl⟩ := (m.memory.watch_eq_ok_iff memory a w).mp watch
      exact hmemory m _ (fun hm => hm.withWatchers _) h
    | unwatch a name => exact hmemory m _ (fun hm => hm.withWatchers _) h
    | popInput value input pop =>
      exact hinput m input (fun w hw => Or.inl (InputTray.mem_pending_of_pop pop w hw)) h
    | clearInput => exact hempty m h
    | pushOutput value => exact hunchecked rfl h
    | clearOutput => exact houtput m h
    | _ => exact hcongr m _ h rfl rfl rfl rfl

/-- Whatever is asked of a machine, its mailboxes and inputs keep their range. -/
lemma StoresWords.handle (h : m.StoresWords) (request : Request) :
    (m.handle request).1.StoresWords := by
  refine handle_induction (fun _ h => h.step) (fun _ _ h _ hm hi _ => h.congr hm hi)
    (fun _ _ hm h => ⟨hm h.memory, h.pending⟩)
    (fun m _ hi h => ⟨h.memory, fun w hw => (hi w hw).elim (h.pending w) id⟩)
    (fun _ h => h.congr rfl rfl) (fun _ h => h.congr rfl rfl) (fun hunchecked h => ?_) h
  -- an assignment and a pushed output touch neither mailboxes nor inputs
  cases request with
  | assign a => exact h.congr rfl rfl
  | pushOutput value => exact h.congr rfl rfl
  | _ => cases hunchecked

/-- A machine can operate for as long as no register is assigned. -/
lemma Operable.handle (h : m.Operable) (hassign : request.isAssignment = false) :
    (m.handle request).1.Operable := by
  have hnew := inRange_new
  refine handle_induction (fun _ h => h.step) (fun _ _ h hr hm hi _ => h.congr hr hm hi)
    (fun _ _ hm h => ⟨⟨hm h.memory, h.pending⟩, h.acc, h.pc⟩)
    (fun m _ hi h => ⟨⟨h.memory, fun w hw => (hi w hw).elim (h.pending w) id⟩, h.acc, h.pc⟩)
    (fun _ h => h.congr rfl rfl rfl) (fun _ h => h.withRegisters hnew.acc hnew.pc)
    (fun hunchecked h => ?_) h
  -- an output that is pushed does not matter to the operation
  cases request with
  | assign a => cases hassign
  | pushOutput value => exact h.congr rfl rfl rfl
  | _ => cases hunchecked

/-- A machine in range stays in range unless a value is put there without a check. -/
lemma InRange.handle (h : m.InRange) (hchecked : request.isUnchecked = false) :
    (m.handle request).1.InRange := by
  have hnew := inRange_new
  refine handle_induction (fun _ h => h.step) (fun _ _ h hr hm hi ho => h.congr hr hm hi ho)
    (fun _ _ hm h => ⟨⟨⟨hm h.memory, h.pending⟩, h.acc, h.pc⟩, h.outputs, h.cycles⟩)
    (fun m _ hi h => ⟨⟨⟨h.memory, fun w hw => (hi w hw).elim (h.pending w) id⟩, h.acc, h.pc⟩,
      h.outputs, h.cycles⟩)
    (fun _ h => ⟨⟨h.toStoresWords.congr rfl rfl, h.acc, h.pc⟩, hnew.outputs, h.cycles⟩)
    (fun _ h => h.withRegisters hnew.acc hnew.pc hnew.cycles)
    (fun hunchecked => ?_) h
  rw [hchecked] at hunchecked
  cases hunchecked

end

/-! ### Sessions -/

/-- Every session on a new machine stores words. -/
lemma storesWords_session (requests : List Request) : (session {} requests).StoresWords :=
  session_induction (fun _ request _ h => h.handle request) (fun _ _ => trivial)
    inRange_new.toStoresWords

/-- In every session on a new machine, whatever is refused on the way, the mailboxes and the pending
inputs keep their range. Unless a register is assigned or an output pushed, the whole machine is in
range after the session, and then a step from there fails only because the word fetched carries no
instruction, because no input is pending, or by the objection of a watcher, never for an address or
a word out of range. -/
theorem session_inRange (requests : List Request) :
    (session {} requests).StoresWords ∧
      ((∀ request ∈ requests, request.isUnchecked = false) →
        (session {} requests).InRange ∧
          ∀ f, (session {} requests).step.2 = .error f →
            (session {} requests).MayFailFor f.cause ∧
              f.kind ≠ .addressOutOfRange ∧ f.kind ≠ .invalidWord) := by
  refine ⟨storesWords_session requests, fun hchecked => ?_⟩
  have hrange : (session {} requests).InRange :=
    session_induction (fun _ _ hr h => h.handle hr) hchecked inRange_new
  refine ⟨hrange, fun f hstep => ?_⟩
  have hcause := hrange.mayFailFor_of_step hstep
  exact ⟨hcause, hcause.kind_ne⟩

/-- After a session in which a request is refused, a step fails by the veto of a watcher. -/
theorem session_inRange_guarded :
    (session {} [.load [.integer 901, .integer 399], .watch 99 (.vetoing "guard"), .write 99 1000,
      .inject [.integer 7], .step]).MayFailFor (.declared .general "vetoed by guard") :=
  (((session_inRange _).2 (by decide)).2
    ⟨.declared .general "vetoed by guard", some 1, some 2⟩ (by decide)).1

end Machine

end LittleMan
