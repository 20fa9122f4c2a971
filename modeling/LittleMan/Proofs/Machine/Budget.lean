import LittleMan.Proofs.Machine.Records

/-!
# Budgets

A run may be interrupted by its budget and taken up again, and nothing tells the difference but the
record of events, which notes every budget that is used up (`run_add`). The key is that a run from
the end of a way of completed instructions is the rest of a run from its start
(`Completes.runFor_add`): whether the machine has halted, fails or goes on at the point where the
budget is split, both sides go the same way.
-/

namespace LittleMan

namespace Machine

section

variable {m next : Machine} {a b : Nat}

/-- A run that goes on behind `a` instructions. -/
def Run.behind (a : Nat) (r : Run) : Run :=
  ⟨r.stop, a + r.executed⟩

/-- A run from the end of a way of completed instructions is the rest of a run from its start. -/
theorem Completes.runFor_add (h : Completes m a next) (b : Nat) :
    SameButEvents (next.runFor b).1 (m.runFor (a + b)).1 ∧
      (m.runFor (a + b)).2 = (next.runFor b).2.map (Run.behind a) := by
  have hcases := next.run_cases b
  generalize next.runFor b = ended at hcases
  cases hcases with
  | halt k after le completes halted =>
    rw [(RunCases.halt (a + k) after (by omega) (h.trans completes) halted).runFor_eq]
    exact ⟨.refl after, rfl⟩
  | timeout after completes running =>
    rw [(RunCases.timeout after (h.trans completes) running).runFor_eq]
    exact ⟨(SameButEvents.refl after).note _ _, rfl⟩
  | fault k before failed f lt completes step =>
    rw [(RunCases.fault (a + k) before failed f (by omega) (h.trans completes) step).runFor_eq]
    exact ⟨.refl failed, rfl⟩

/-- A run that fails, fails alike within every larger budget. -/
lemma runFor_add_of_error {f : Fault} (h : (m.runFor a).2 = .error f) (b : Nat) :
    m.runFor (a + b) = m.runFor a := by
  have hcases := m.run_cases a
  generalize m.runFor a = ended at h hcases
  cases hcases with
  | halt => cases h
  | timeout => cases h
  | fault k before failed f lt completes step =>
    exact (RunCases.fault k before failed f (by omega) completes step).runFor_eq

/-- A run that does not fail can be taken up again. -/
lemma runFor_add_of_ok {r : Run} (h : (m.runFor a).2 = .ok r) (b : Nat) :
    SameButEvents ((m.runFor a).1.runFor b).1 (m.runFor (a + b)).1 ∧
      (m.runFor (a + b)).2 = ((m.runFor a).1.runFor b).2.map (Run.behind r.executed) := by
  have hcases := m.run_cases a
  generalize m.runFor a = ended at h hcases
  cases hcases with
  | halt k after le completes halted =>
    cases h
    rw [(RunCases.halt k after (by omega) completes halted).runFor_eq,
      (RunCases.halt 0 after b.zero_le (.none after) halted).runFor_eq]
    exact ⟨.refl after, rfl⟩
  | timeout after completes running =>
    cases h
    obtain ⟨hrest, hended⟩ := completes.runFor_add b
    obtain ⟨hnoted, hnoted'⟩ :=
      (after.sameButEvents_note (.exhausted a after.registers.pc)).runFor b
    rw [hended, hnoted']
    exact ⟨hnoted.trans hrest, rfl⟩
  | fault => cases h

end

/-! ### Counting -/

/-- A run that is out of budget stands where its instructions lead. -/
lemma completes_of_timeout {m : Machine} {a : Nat} {r : Run} (h : (m.runFor a).2 = .ok r)
    (htimeout : r.stop = .timeout) : r.executed = a ∧ ∃ after, Completes m a after ∧
      after.registers.halted = false ∧ SameButEvents (m.runFor a).1 after := by
  have hcases := m.run_cases a
  generalize m.runFor a = ended at h hcases
  cases hcases with
  | halt =>
    obtain rfl := Except.ok.inj h
    cases htimeout
  | timeout after completes running =>
    obtain rfl := Except.ok.inj h
    exact ⟨rfl, after, completes, running, after.sameButEvents_note _⟩
  | fault => cases h

/-- Splitting a budget changes nothing. A run that fails within `a` instructions fails within
`a + b` in the same way and leaves the same machine. After a run of `a` that does not fail, a run of
`b` leaves what one run of `a + b` leaves but for the record of events; it fails as that one fails,
and otherwise it stops for the same reason, the executed instructions of both parts taken together.
A run that is out of budget has completed its `a` instructions and stands where they lead; and if
the last of `a` instructions halts the machine, the run has halted. -/
theorem run_add (m : Machine) (a b : Nat) :
    (∀ e, (m.run a).2 = .error e → m.run (a + b) = m.run a) ∧
    (∀ r, (m.run a).2 = .ok r →
      SameButEvents ((m.run a).1.run b).1 (m.run (a + b)).1 ∧
        (∀ e, ((m.run a).1.run b).2 = .error e → (m.run (a + b)).2 = .error e) ∧
        (∀ r', ((m.run a).1.run b).2 = .ok r' →
          (m.run (a + b)).2 = .ok ⟨r'.stop, r.executed + r'.executed⟩) ∧
        (r.stop = .timeout → r.executed = a ∧ ∃ after, Completes m a after ∧
          after.registers.halted = false ∧ SameButEvents (m.run a).1 after)) ∧
    (∀ after, Completes m a after → after.registers.halted = true →
      m.run a = (after, .ok ⟨.halt, a⟩)) := by
  simp only [← Int.natCast_add, run_ofNat]
  refine ⟨fun e he => ?_, fun r hr => ?_, fun after hway halted => ?_⟩
  · obtain ⟨f, hf, -⟩ := mapError_eq_error_iff.mp he
    rw [runFor_add_of_error hf b]
  · have hr' : (m.runFor a).2 = .ok r := mapError_eq_ok_iff.mp hr
    obtain ⟨hleft, hended⟩ := runFor_add_of_ok hr' b
    refine ⟨hleft, fun e he => ?_, fun s hs => ?_, completes_of_timeout hr'⟩
    · obtain ⟨f, hf, rfl⟩ := mapError_eq_error_iff.mp he
      rw [hended, hf]
      rfl
    · rw [hended, mapError_eq_ok_iff.mp hs]
      rfl
  · rw [(RunCases.halt a after (Nat.le_refl a) hway halted).runFor_eq]
    rfl

end Machine

end LittleMan
