import LittleMan.Proofs.Machine.Run

/-!
# Completed instructions

A run is a number of completed instructions and then an end. `Completes m k after` says that `k`
instructions are completed, one after the other, on the way from the machine `m` to the machine
`after`. Only a machine that has not halted completes an instruction, so a halt can only be the last
of them. The way is determined by its length (`Completes.unique`), ways can be joined
(`Completes.trans`), and every completed instruction is counted (`Completes.cycles`).

A run within a budget ends in one of three ways, each with a way of completed instructions that
leads there: the machine has halted, the budget is used up, or the next instruction fails
(`RunCases`). The three exclude each other, so the list describes runs completely
(`runFor_eq_iff`). Later proofs about runs are case distinctions on it.
-/

namespace LittleMan

namespace Machine

/-! ### Ways of completed instructions -/

/-- So many instructions are completed on the way from one machine to another. -/
inductive Completes : Machine → Nat → Machine → Prop where
  /-- None are. -/
  | none (m : Machine) : Completes m 0 m
  /-- One is, and the others behind it. -/
  | cons {m next after : Machine} {k : Nat} (stop : Option Stop)
      (running : m.registers.halted = false) (step : m.step = (next, .ok stop))
      (rest : Completes next k after) : Completes m (k + 1) after

section

variable {m next after after' failed : Machine} {stop : Option Stop} {f : Fault} {j k : Nat}

/-- A completed instruction is counted, and the step stops if the machine has halted. -/
lemma stop_of_step (running : m.registers.halted = false) (h : m.step = (next, .ok stop)) :
    stop = (if next.registers.halted then some .halt else none) ∧
      next.registers.cycles = m.registers.cycles + 1 := by
  cases stop with
  | none =>
    obtain ⟨hhalted, hcycles⟩ := registers_of_step_next (m := m) (by rw [h])
    rw [h] at hhalted hcycles
    exact ⟨by rw [hhalted]; rfl, hcycles⟩
  | some stop =>
    obtain ⟨rfl, hhalted, hcycles⟩ := registers_of_step_stop running stop (by rw [h])
    rw [h] at hhalted hcycles
    exact ⟨by rw [hhalted]; rfl, hcycles⟩

/-- The machine of a failing step has not halted. -/
lemma running_of_step_error (h : m.step = (failed, .error f)) :
    m.registers.halted = false :=
  (ofCause_of_step_error (f := f) (by rw [h])).2

/-- One instruction is completed by a step that does not fail. -/
lemma Completes.one (running : m.registers.halted = false) (h : m.step = (next, .ok stop)) :
    Completes m 1 next :=
  .cons stop running h (.none next)

/-- One way can be gone behind another. -/
lemma Completes.trans (h : Completes m j next) (h' : Completes next k after) :
    Completes m (j + k) after := by
  induction h with
  | none => rwa [Nat.zero_add]
  | @cons m next' _ j stop running step rest ih =>
    rw [Nat.add_right_comm]
    exact .cons stop running step (ih h')

/-- The length of a way determines where it leads. -/
lemma Completes.unique (h : Completes m k after) (h' : Completes m k after') : after = after' := by
  induction h with
  | none => cases h'; rfl
  | cons stop running step rest ih =>
    cases h' with
    | cons stop' running' step' rest' =>
      obtain ⟨rfl, -⟩ := Prod.mk.inj (step.symm.trans step')
      exact ih rest'

/-- A way contains every shorter way. -/
lemma Completes.split (h : Completes m (j + k) after) :
    ∃ middle, Completes m j middle ∧ Completes middle k after := by
  induction j generalizing m with
  | zero =>
    rw [Nat.zero_add] at h
    exact ⟨m, .none m, h⟩
  | succ j ih =>
    rw [Nat.add_right_comm] at h
    cases h with
    | cons stop running step rest =>
      obtain ⟨middle, hfirst, hsecond⟩ := ih rest
      exact ⟨middle, .cons stop running step hfirst, hsecond⟩

/-- The machine has not halted anywhere before the end of a way. -/
lemma Completes.running_of_lt (h : Completes m k after) (h' : Completes m j next) (hlt : j < k) :
    next.registers.halted = false := by
  obtain ⟨n, rfl⟩ : ∃ n, k = j + (n + 1) := ⟨k - j - 1, by omega⟩
  obtain ⟨middle, hfirst, hsecond⟩ := h.split
  obtain rfl := hfirst.unique h'
  cases hsecond with
  | cons stop running => exact running

/-- A way to a machine that has not halted starts from one. -/
lemma Completes.running_of_end (h : Completes m k after)
    (running : after.registers.halted = false) : m.registers.halted = false := by
  cases h with
  | none => exact running
  | cons stop running' => exact running'

/-- What every step keeps, completed instructions keep. -/
lemma Completes.keeps {P : Machine → Prop} (hstep : ∀ m, P m → P m.step.1)
    (h : Completes m k after) (hP : P m) : P after := by
  induction h with
  | none => exact hP
  | @cons m next after k stop running step rest ih =>
    have hnext := hstep m hP
    rw [step] at hnext
    exact ih hnext

/-- Every completed instruction is counted. -/
lemma Completes.cycles (h : Completes m k after) :
    after.registers.cycles = m.registers.cycles + k := by
  induction h with
  | none => simp
  | cons stop running step rest ih =>
    have hcycles := (stop_of_step running step).2
    push_cast
    omega

/-! ### Runs as ways -/

/-- A run goes on from the end of every way of completed instructions. -/
lemma Completes.continueRun (h : Completes m k after) (running : after.registers.halted = false)
    (executed budget : Nat) :
    continueRun executed (k + budget) m = continueRun (executed + k) budget after := by
  induction h generalizing executed with
  | none => rw [Nat.zero_add, Nat.add_zero]
  | @cons m next after k stop running' step rest ih =>
    -- the machine behind the first instruction has not halted, since the last one has not
    have hnext : next.registers.halted = false := rest.running_of_end running
    obtain ⟨hstop, -⟩ := stop_of_step running' step
    rw [hnext] at hstop
    obtain rfl : stop = .none := hstop
    have hbudget : k + 1 + budget = k + budget + 1 := by omega
    have hexecuted : executed + 1 + k = executed + (k + 1) := by omega
    rw [hbudget, ← hexecuted, ← ih running (executed + 1)]
    simp only [Machine.continueRun, step]

end

/-- Everything that a run can come to. -/
inductive RunCases (m : Machine) (budget : Nat) : Machine × Except Fault Run → Prop where
  /-- The machine has halted. -/
  | halt (k : Nat) (after : Machine) (le : k ≤ budget) (completes : Completes m k after)
      (halted : after.registers.halted = true) : RunCases m budget (after, .ok ⟨.halt, k⟩)
  /-- The budget is used up. -/
  | timeout (after : Machine) (completes : Completes m budget after)
      (running : after.registers.halted = false) :
      RunCases m budget
        (after.note (.exhausted budget after.registers.pc), .ok ⟨.timeout, budget⟩)
  /-- An instruction fails. -/
  | fault (k : Nat) (before failed : Machine) (f : Fault) (lt : k < budget)
      (completes : Completes m k before) (step : before.step = (failed, .error f)) :
      RunCases m budget (failed, .error f)

section

variable {m : Machine} {budget : Nat}

/-- What the continuation of a run comes to, told from the machine `m` from which `executed`
instructions were completed on the way to where it goes on. -/
lemma runCases_of_continueRun {executed rest : Nat} {now : Machine}
    (h : Completes m executed now) (running : now.registers.halted = false)
    (hbudget : budget = executed + rest) :
    RunCases m budget (match continueRun executed rest now with
      | (after, .ok ⟨.timeout, executed⟩) =>
        (after.note (.exhausted budget after.registers.pc), .ok ⟨.timeout, executed⟩)
      | ended => ended) := by
  induction rest generalizing executed now with
  | zero =>
    obtain rfl : budget = executed := hbudget
    exact .timeout now h running
  | succ rest ih =>
    unfold continueRun
    rcases hstep : now.step with ⟨next, f | stop⟩
    · exact .fault executed now next f (by omega) h hstep
    · obtain ⟨hstop, -⟩ := stop_of_step running hstep
      have hnext := h.trans (.one running hstep)
      cases hhalted : next.registers.halted with
      | false =>
        rw [hhalted] at hstop
        obtain rfl : stop = none := hstop
        exact ih hnext hhalted (by omega)
      | true =>
        rw [hhalted] at hstop
        obtain rfl : stop = some .halt := hstop
        exact .halt (executed + 1) next (by omega) hnext hhalted

/-- What a run comes to is one of the cases. -/
theorem run_cases (m : Machine) (budget : Nat) : RunCases m budget (m.runFor budget) := by
  unfold runFor
  split
  · next halted => exact .halt 0 m (Nat.zero_le budget) (.none m) halted
  · next running =>
    have hrunning := Bool.eq_false_iff.mpr running
    exact runCases_of_continueRun (.none m) hrunning (Nat.zero_add budget).symm

/-- A run that does not fail counts the instructions that it reports. -/
lemma run_counts {n : Int} {r : Run} (h : (m.run n).2 = .ok r) :
    (m.run n).1.registers.cycles = m.registers.cycles + r.executed ∧ r.executed ≤ n := by
  rcases Int.lt_or_le n 0 with hneg | hbudget
  · rw [run_of_neg m hneg] at h
    cases h
  · obtain ⟨budget, rfl⟩ := Int.eq_ofNat_of_zero_le hbudget
    rw [run_ofNat] at h ⊢
    have hcases := m.run_cases budget
    generalize m.runFor budget = ended at h hcases
    cases hcases with
    | halt k after le completes halted =>
      obtain rfl := Except.ok.inj h
      exact ⟨completes.cycles, Int.ofNat_le.mpr le⟩
    | timeout after completes running =>
      obtain rfl := Except.ok.inj h
      exact ⟨completes.cycles, Int.le_refl _⟩
    | fault k before failed f lt completes step => cases h

/-- A run comes to what one of the cases says. -/
lemma RunCases.runFor_eq {ended : Machine × Except Fault Run} (h : RunCases m budget ended) :
    m.runFor budget = ended := by
  unfold runFor
  cases h with
  | halt k after le completes halted =>
    cases k with
    | zero =>
      cases completes
      rw [if_pos halted]
    | succ j =>
      obtain ⟨middle, hway, hlast⟩ := completes.split
      cases hlast with
      | cons stop running step rest =>
        cases rest
        obtain ⟨hstop, -⟩ := stop_of_step running step
        rw [halted] at hstop
        obtain rfl : stop = some .halt := hstop
        obtain ⟨rest, rfl⟩ : ∃ rest, budget = j + (rest + 1) := ⟨budget - j - 1, by omega⟩
        rw [if_neg (by simp [completes.running_of_lt (.none m) j.succ_pos]),
          hway.continueRun running 0 (rest + 1)]
        simp only [Machine.continueRun, step, Nat.zero_add]
  | timeout after completes running =>
    have hm : m.registers.halted = false := completes.running_of_end running
    have hrun := completes.continueRun running 0 0
    rw [Nat.add_zero] at hrun
    rw [if_neg (by simp [hm]), hrun]
    simp only [Machine.continueRun, Nat.zero_add]
  | fault k before failed f lt completes step =>
    have running := running_of_step_error step
    have hm : m.registers.halted = false := completes.running_of_end running
    obtain ⟨rest, rfl⟩ : ∃ rest, budget = k + (rest + 1) := ⟨budget - k - 1, by omega⟩
    rw [if_neg (by simp [hm]), completes.continueRun running 0 (rest + 1)]
    simp only [Machine.continueRun, step]

/-- The cases describe runs completely. -/
theorem runFor_eq_iff (m : Machine) (budget : Nat) (ended : Machine × Except Fault Run) :
    m.runFor budget = ended ↔ RunCases m budget ended :=
  ⟨fun h => h ▸ run_cases m budget, RunCases.runFor_eq⟩

end

end Machine

end LittleMan
