import LittleMan.Proofs.Machine.Execution
import LittleMan.Proofs.Machine.Handle
import Mathlib.Data.List.Induction

/-!
# The chronicle of a session

The registers of a machine say little about how they came to be what they are. The chronicle of a
session tells it: every instruction that was completed, with the machine before and after it, and
every time the registers were put back to power-on. Refused requests and failed instructions leave
no mark in it, and neither does anything that is done to the memory, the trays or the trace.

A run is in the chronicle with the instructions that it completed, up to its budget, its halt or its
fault (`completions`). So a statement about every moment of a session is a statement about its
chronicle, and `chronicle_induction` is the way to prove one: what a completed instruction, a failed
one, a restart and every other request keep holds at the end of the session and before each
instruction on the way.
-/

namespace LittleMan

namespace Machine

/-! ### Completed instructions -/

/-- The instruction in the mailbox that the counter shows. -/
def next? (m : Machine) : Option Instruction :=
  match m.memory.read m.registers.pc with
  | .ok word => Instruction.decode? word
  | .error _ => none

/-- The instruction is the one of the word in that mailbox. -/
lemma next?_eq_some_iff (m : Machine) (i : Instruction) : m.next? = some i ↔
    ∃ word, m.memory.read m.registers.pc = .ok word ∧ Instruction.decode? word = some i := by
  unfold next?
  cases m.memory.read m.registers.pc with
  | error cause => simp
  | ok word => simp

/-- An instruction that was completed, with the machine before and after it. -/
structure Completion where
  before : Machine
  instruction : Instruction
  stop : Option Stop
  after : Machine
  running : before.registers.halted = false
  carried : before.next? = some instruction
  step : before.step = (after, .ok stop)

/-- The instruction that the next step of a machine completes, if it completes one. -/
def completion? (m : Machine) : Option Completion :=
  if running : m.registers.halted = false then
    match carried : m.next?, step : m.step with
    | some i, (after, .ok stop) => some ⟨m, i, stop, after, running, carried, step⟩
    | _, _ => none
  else none

/-- The instructions that a machine completes within a budget before it halts or fails. -/
def completions : Nat → Machine → List Completion
  | 0, _ => []
  | budget + 1, m =>
    match m.completion? with
    | some c => c :: completions budget c.after
    | none => []

section

variable {m next after failed : Machine} {stop : Option Stop} {f : Fault}

/-- A step that does not fail completes an instruction. -/
lemma exists_completion_of_step (running : m.registers.halted = false)
    (step : m.step = (next, .ok stop)) :
    ∃ c, m.completion? = some c ∧ c.before = m ∧ c.after = next := by
  obtain ⟨i, carried⟩ : ∃ i, m.next? = some i := by
    have hcases := m.step_cases
    rw [step] at hcases
    generalize hended : (next, Except.ok stop) = ended at hcases
    cases hcases with
    | halted halted =>
      rw [running] at halted
      cases halted
    | unfetched => cases hended
    | undecoded => cases hended
    | failed => cases hended
    | completed word i after running read decode =>
      exact ⟨i, (m.next?_eq_some_iff i).mpr ⟨word, read, decode⟩⟩
  refine ⟨⟨m, i, stop, next, running, carried, step⟩, ?_, rfl, rfl⟩
  unfold completion?
  rw [dif_pos running]
  split
  · next j after' stop' carried' step' =>
    obtain rfl := Option.some.inj (carried.symm.trans carried')
    obtain ⟨rfl, hstop⟩ := Prod.mk.inj (step.symm.trans step')
    obtain rfl := Except.ok.inj hstop
    rfl
  · next hnot => exact (hnot i next stop carried step).elim

/-- A completed instruction was performed on the machine that had fetched its word, and then it was
counted. -/
lemma exists_perform_of_step {i : Instruction} (running : m.registers.halted = false)
    (carried : m.next? = some i) (step : m.step = (next, .ok stop)) :
    ∃ word performed, (m.fetched word).perform i = (performed, none) ∧
      next = (performed.complete (m.registers.cycles + 1)).1 := by
  have hcases := m.step_cases
  rw [step] at hcases
  generalize hended : (next, Except.ok stop) = ended at hcases
  cases hcases with
  | halted halted =>
    rw [running] at halted
    cases halted
  | unfetched => cases hended
  | undecoded => cases hended
  | failed => cases hended
  | completed word j performed running read decode perform =>
    have hnext : m.next? = some j := (m.next?_eq_some_iff j).mpr ⟨word, read, decode⟩
    obtain rfl : i = j := Option.some.inj (carried.symm.trans hnext)
    exact ⟨word, performed, perform, congrArg Prod.fst hended⟩

/-- A machine that has halted completes nothing. -/
lemma completions_of_halted (halted : m.registers.halted = true) (budget : Nat) :
    completions budget m = [] := by
  have hnone : m.completion? = none := by
    unfold completion?
    rw [dif_neg (by simp [halted])]
  cases budget with
  | zero => rfl
  | succ budget => simp only [completions, hnone]

/-- A machine whose next step fails completes nothing. -/
lemma completions_of_error (step : m.step = (failed, .error f)) (budget : Nat) :
    completions budget m = [] := by
  have hnone : m.completion? = none := by
    cases h : m.completion? with
    | none => rfl
    | some c =>
      unfold completion? at h
      split at h
      · split at h
        · next step' =>
          rw [step] at step'
          cases (Prod.mk.inj step').2
        · cases h
      · cases h
  cases budget with
  | zero => rfl
  | succ budget => simp only [completions, hnone]

end

/-! ### The chronicle -/

/-- What a chronicle tells of. -/
inductive Occurrence where
  /-- The registers were put back to power-on. -/
  | restart
  /-- An instruction was completed. -/
  | completion (c : Completion)

/-- The request puts the registers back to power-on, unless it is refused. -/
def Request.isRestart : Request → Bool
  | .load _ | .loadText _ | .reset | .resetRegisters => true
  | _ => false

/-- What happens in a machine while it carries out a request. -/
def occurrences (m : Machine) : Request → List Occurrence
  | .step => (completions 1 m).map .completion
  | .run budget => (completions budget.toNat m).map .completion
  | request => if request.isRestart && (m.handle request).2.isOk then [.restart] else []

/-- A request that executes nothing leaves at most a restart. -/
lemma occurrences_of_not_isExecution {m : Machine} {request : Request}
    (h : request.isExecution = false) : m.occurrences request =
      if request.isRestart && (m.handle request).2.isOk then [.restart] else [] := by
  cases request with
  | step => cases h
  | run budget => cases h
  | _ => rfl

/-- What happens in a machine in the course of a session. -/
def chronicle (m : Machine) : List Request → List Occurrence
  | [] => []
  | request :: rest => m.occurrences request ++ (m.handle request).1.chronicle rest

/-- The instructions that were completed since the registers were last put back to power-on. -/
def sinceRestart (past : List Occurrence) : List Completion :=
  past.foldl (fun
    | _, .restart => []
    | completed, .completion c => completed ++ [c]) []

@[simp] lemma sinceRestart_restart (past : List Occurrence) :
    sinceRestart (past ++ [.restart]) = [] := by
  simp [sinceRestart]

@[simp] lemma sinceRestart_completion (past : List Occurrence) (c : Completion) :
    sinceRestart (past ++ [.completion c]) = sinceRestart past ++ [c] := by
  simp [sinceRestart]

/-- If the registers were not put back at all, all of the instructions count. -/
lemma sinceRestart_map_completion (completed : List Completion) :
    sinceRestart (completed.map .completion) = completed := by
  induction completed using List.reverseRecOn with
  | nil => rfl
  | append_singleton completed c ih =>
    rw [List.map_append, List.map_singleton, sinceRestart_completion, ih]

/-! ### Induction over a chronicle -/

/-- A property of a past and the machine that it led to is kept by all that happens in sessions of
requests of a kind. -/
structure IsKept (kind : Request → Prop) (P : List Occurrence → Machine → Prop) : Prop where
  completion : ∀ past (c : Completion), P past c.before → P (past ++ [.completion c]) c.after
  failure : ∀ past m f, m.step.2 = .error f → P past m → P past m.step.1
  /-- The record of events does not matter. -/
  note : ∀ past m e, P past m → P past (m.note e)
  restart : ∀ past m request, kind request → request.isRestart = true →
    (m.handle request).2.isOk = true → P past m → P (past ++ [.restart]) (m.handle request).1
  /-- Requests of which the chronicle tells nothing. -/
  other : ∀ past m request, kind request → request.isExecution = false →
    (request.isRestart && (m.handle request).2.isOk) = false → P past m →
      P past (m.handle request).1

section

variable {kind : Request → Prop} {P : List Occurrence → Machine → Prop} {past : List Occurrence}
  {m after : Machine}

/-- It is kept on a way of completed instructions, and the way is in the list of completions, which
goes on from its end. -/
lemma IsKept.completes (h : IsKept kind P) {k : Nat} (hway : Completes m k after)
    (hP : P past m) (rest : Nat) :
    ∃ cs, completions (k + rest) m = cs ++ completions rest after ∧
      P (past ++ cs.map .completion) after := by
  induction hway generalizing past with
  | none m =>
    refine ⟨[], ?_, ?_⟩
    · rw [Nat.zero_add, List.nil_append]
    · rwa [List.map_nil, List.append_nil]
  | @cons m next after k stop running step way ih =>
    obtain ⟨c, hc, rfl, rfl⟩ := exists_completion_of_step running step
    obtain ⟨cs, hcs, hafter⟩ := ih (h.completion past c hP)
    refine ⟨c :: cs, ?_, ?_⟩
    · have hbudget : k + 1 + rest = k + rest + 1 := by omega
      rw [hbudget]
      simp only [completions, hc]
      rw [hcs, List.cons_append]
    · rwa [List.append_assoc, List.singleton_append] at hafter

/-- It is kept in a run. -/
lemma IsKept.runFor (h : IsKept kind P) (hP : P past m) (budget : Nat) :
    P (past ++ (completions budget m).map .completion) (m.runFor budget).1 := by
  have hcases := m.run_cases budget
  generalize m.runFor budget = ended at hcases
  cases hcases with
  | halt k after le completes halted =>
    obtain ⟨cs, hcs, hafter⟩ := h.completes completes hP (budget - k)
    rw [Nat.add_sub_cancel' le, completions_of_halted halted, List.append_nil] at hcs
    rw [hcs]
    exact hafter
  | timeout after completes running =>
    obtain ⟨cs, hcs, hafter⟩ := h.completes completes hP 0
    rw [Nat.add_zero, completions, List.append_nil] at hcs
    rw [hcs]
    exact h.note _ _ _ hafter
  | fault k before failed f lt completes step =>
    obtain ⟨cs, hcs, hbefore⟩ := h.completes completes hP (budget - k)
    rw [Nat.add_sub_cancel' (Nat.le_of_lt lt), completions_of_error step, List.append_nil] at hcs
    have hfailed := h.failure _ before f (by rw [step]) hbefore
    rw [step] at hfailed
    rw [hcs]
    exact hfailed

/-- It is kept in a step. -/
lemma IsKept.step (h : IsKept kind P) (hP : P past m) :
    P (past ++ (completions 1 m).map .completion) m.step.1 := by
  rcases hstep : m.step with ⟨next, f | stop⟩
  · have hfailed := h.failure past m f (by rw [hstep]) hP
    rw [hstep] at hfailed
    rw [completions_of_error hstep, List.map_nil, List.append_nil]
    exact hfailed
  · cases hrunning : m.registers.halted with
    | true =>
      rw [step_of_halted hrunning] at hstep
      obtain ⟨rfl, -⟩ := Prod.mk.inj hstep
      rw [completions_of_halted hrunning, List.map_nil, List.append_nil]
      exact hP
    | false =>
      obtain ⟨c, hc, rfl, rfl⟩ := exists_completion_of_step hrunning hstep
      simp only [completions, hc]
      exact h.completion past c hP

/-- It is kept in a run with any budget. -/
lemma IsKept.run (h : IsKept kind P) (hP : P past m) (n : Int) :
    P (past ++ (completions n.toNat m).map .completion) (m.run n).1 := by
  rcases Int.lt_or_le n 0 with hneg | hbudget
  · have hnone : completions n.toNat m = [] := by
      rw [Int.toNat_of_nonpos (Int.le_of_lt hneg), completions]
    rw [run_of_neg m hneg, hnone, List.map_nil, List.append_nil]
    exact hP
  · obtain ⟨budget, rfl⟩ := Int.eq_ofNat_of_zero_le hbudget
    rw [run_ofNat, Int.toNat_natCast]
    exact h.runFor hP budget

/-- What completed instructions keep and failing ones do not touch, a run keeps with the list of the
instructions that it completed. -/
theorem completions_induction {Q : List Completion → Machine → Prop}
    (hcompletion : ∀ done (c : Completion), Q done c.before → Q (done ++ [c]) c.after)
    (hfailure : ∀ done m f, m.step.2 = .error f → Q done m → Q done m.step.1)
    (hnote : ∀ done m e, Q done m → Q done (m.note e)) (h : Q [] m) (n : Int) :
    Q (completions n.toNat m) (m.run n).1 := by
  have hkept : IsKept (fun _ => False) fun past m => Q (sinceRestart past) m := {
    completion := by
      intro past c hQ
      rw [sinceRestart_completion]
      exact hcompletion _ c hQ
    failure := fun past => hfailure (sinceRestart past)
    note := fun past => hnote (sinceRestart past)
    restart := fun _ _ _ hkind => hkind.elim
    other := fun _ _ _ hkind => hkind.elim }
  have hstart : Q (sinceRestart []) m := h
  have hrun := hkept.run hstart n
  rwa [List.nil_append, sinceRestart_map_completion] at hrun

/-- It is kept by a request of the kind. -/
lemma IsKept.handle (h : IsKept kind P) {request : Request} (hkind : kind request)
    (hP : P past m) : P (past ++ m.occurrences request) (m.handle request).1 := by
  cases hexecution : request.isExecution with
  | true =>
    cases request with
    | step =>
      rw [handle_step]
      exact h.step hP
    | run budget =>
      rw [handle_run]
      exact h.run hP budget
    | _ => cases hexecution
  | false =>
    rw [occurrences_of_not_isExecution hexecution]
    split
    · next hrestarts =>
      obtain ⟨hrestart, hok⟩ := Bool.and_eq_true_iff.mp hrestarts
      exact h.restart past m request hkind hrestart hok hP
    · next hnot =>
      rw [List.append_nil]
      exact h.other past m request hkind hexecution (Bool.eq_false_iff.mpr hnot) hP

/-- It is kept in a session of requests of the kind. -/
theorem chronicle_induction (h : IsKept kind P) {requests : List Request}
    (hkind : ∀ request ∈ requests, kind request) (hP : P past m) :
    P (past ++ m.chronicle requests) (m.session requests) := by
  induction requests generalizing past m with
  | nil =>
    rw [chronicle, List.append_nil]
    exact hP
  | cons request rest ih =>
    rw [chronicle, ← List.append_assoc]
    exact ih (fun r hr => hkind r (List.mem_cons_of_mem request hr))
      (h.handle (hkind request List.mem_cons_self) hP)

/-- An entry of an extended past is the last one or one of the others, and the last one is behind
those. -/
lemma eq_or_exists_of_append_singleton {α : Type} {past earlier later : List α} {o o' : α}
    (h : past ++ [o] = earlier ++ o' :: later) :
    (past = earlier ∧ o = o') ∨
      ∃ rest, past = earlier ++ o' :: rest ∧ later = rest ++ [o] := by
  rcases List.eq_nil_or_concat later with rfl | ⟨rest, last, rfl⟩
  · obtain ⟨hpast, hlast⟩ := List.append_inj' h rfl
    exact Or.inl ⟨hpast, List.head_eq_of_cons_eq hlast⟩
  · have hsplit : past ++ [o] = (earlier ++ o' :: rest) ++ [last] := by
      rw [h, List.append_assoc, List.cons_append, List.concat_eq_append]
    obtain ⟨hpast, hlast⟩ := List.append_inj' hsplit rfl
    have hlater : rest.concat last = rest ++ [o] := by
      rw [hlast, List.concat_eq_append]
    exact Or.inr ⟨rest, hpast, hlater⟩

/-- The property held before every instruction of the past. -/
def HeldBefore (P : List Occurrence → Machine → Prop) (past : List Occurrence) : Prop :=
  ∀ earlier c later, past = earlier ++ .completion c :: later → P earlier c.before

/-- What is kept is kept together with the fact that it always held. -/
lemma IsKept.and_heldBefore (h : IsKept kind P) :
    IsKept kind fun past m => P past m ∧ HeldBefore P past where
  completion past c hP := by
    refine ⟨h.completion past c hP.1, fun earlier c' later heq => ?_⟩
    rcases eq_or_exists_of_append_singleton heq with ⟨rfl, hc⟩ | ⟨rest, hpast, -⟩
    · obtain rfl := Occurrence.completion.inj hc
      exact hP.1
    · exact hP.2 earlier c' rest hpast
  failure past m f hstep hP := ⟨h.failure past m f hstep hP.1, hP.2⟩
  note past m e hP := ⟨h.note past m e hP.1, hP.2⟩
  restart past m request hkind hrestart hok hP := by
    refine ⟨h.restart past m request hkind hrestart hok hP.1, fun earlier c later heq => ?_⟩
    rcases eq_or_exists_of_append_singleton heq with ⟨-, hc⟩ | ⟨rest, hpast, -⟩
    · cases hc
    · exact hP.2 earlier c rest hpast
  other past m request hkind hexecution hrestart hP :=
    ⟨h.other past m request hkind hexecution hrestart hP.1, hP.2⟩

/-- What is kept in sessions of a kind and holds at the start of one holds at its end, and before
each instruction on the way. -/
theorem IsKept.throughout (h : IsKept kind P) {requests : List Request}
    (hkind : ∀ request ∈ requests, kind request) (hP : P [] m) :
    P (m.chronicle requests) (m.session requests) ∧ HeldBefore P (m.chronicle requests) := by
  have hnone : HeldBefore P [] := fun earlier c later heq =>
    absurd heq.symm (List.append_ne_nil_of_right_ne_nil earlier (List.cons_ne_nil _ _))
  have hsession : P ([] ++ m.chronicle requests) (m.session requests) ∧
      HeldBefore P ([] ++ m.chronicle requests) :=
    chronicle_induction h.and_heldBefore hkind ⟨hP, hnone⟩
  exact hsession

end

end Machine

end LittleMan
