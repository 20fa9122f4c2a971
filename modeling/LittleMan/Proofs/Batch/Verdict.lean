import LittleMan.Batch.Outcome
import LittleMan.Proofs.Machine.Program

/-!
# Verdicts

A record is tried on a new machine, and so is a program that is executed. The outcome of the trial
says faithfully what came of the execution: its verdict classifies the result (`Classifies`), and
its count of cycles and its outputs are those of the instructions that were completed (`Counts`),
whether the program came to an end, ran out of its budget, failed, or was not even taken
(`trial_classifies`). There is an outcome if the numbers that it shows can be written
(`exists_outcome`); to execute a program takes no more than to tell its fault.

Both go through the same three stages (`Machine.ProgramCases`), and the outcome is read off the
stage where the program got to.
-/

namespace LittleMan

namespace Batch

open Machine

/-- The outcome of a record classifies the result of executing its program. -/
structure Classifies (record : Record) (result : Except Machine.Error (List Int × Stop))
    (o : Outcome) : Prop where
  name : o.name = record.name
  expected : o.expected = record.expected
  executionError_iff : o.verdict = .executionError ↔ ∃ e, result = .error e
  budgetExceeded_iff : o.verdict = .budgetExceeded ↔ ∃ outputs, result = .ok (outputs, .timeout)
  pass_iff : o.verdict = .pass ↔ ∃ outputs, result = .ok (outputs, .halt) ∧
    (record.expected = none ∨ ∃ value, outputs.getLast? = some value ∧
      record.expected = some value)
  resultMismatch_iff : o.verdict = .resultMismatch ↔ ∃ outputs value,
    result = .ok (outputs, .halt) ∧ record.expected = some value ∧
      outputs.getLast? ≠ some value
  /-- A failure is one of the machine's own, and is told by its kind and by its full text, the place
  included. -/
  error : ∀ e, result = .error e → ∃ f : Fault, e = .fault f ∧ f.isOwn = true ∧
    o.errorKind = some f.kind.name ∧ o.message = f.message
  errorKind : ∀ ended, result = .ok ended → o.errorKind = none
  observed : o.observed = o.outputs.getLast?
  outputs : ∀ outputs stop, result = .ok (outputs, stop) → o.outputs = outputs

/-- A program that has completed `k` instructions has come to this: it has halted, it has used its
budget up without a halt, or the next instruction fails. The ways differ in the number, so that
there is one `k` only. -/
def EndsAfter (budget k : Nat) (after : Machine) :
    Except Machine.Error (List Int × Stop) → Prop
  | .ok (_, .halt) => after.registers.halted = true
  | .ok (_, .timeout) => after.registers.halted = false ∧ k = budget
  | .error e => ∃ failed f, after.step = (failed, .error f) ∧ e = .fault f

/-- The outcome counts the completed instructions, and shows what they wrote. -/
structure Counts (image inputs : List Datum) (budget : Nat)
    (result : Except Machine.Error (List Int × Stop)) (o : Outcome) : Prop where
  le : o.cycles ≤ budget
  eq_of_budgetExceeded : o.verdict = .budgetExceeded → o.cycles = budget
  /-- A program that is not taken completes and writes nothing. -/
  refused : (¬ ∃ ready, Prepared image inputs ready) →
    o.verdict = .executionError ∧ o.cycles = 0 ∧ o.outputs = []
  /-- Any other program completes so many instructions before it comes to its end. -/
  completed : ∀ ready, Prepared image inputs ready → ∃ (k : Nat) (after : Machine),
    Completes ready k after ∧ EndsAfter budget k after result ∧
      o.cycles = k ∧ o.outputs = after.outputs

/-- The numbers that the outcome of a record can show have few enough digits to be written. -/
structure IsShowable (image : List Datum) (record : Record) : Prop where
  image : AreShowable image
  inputs : AreShowable record.inputs
  expected : ∀ value ∈ record.expected, Text.isWritable value = true
  budget : ∀ n ∈ record.budget, Text.isWritable n = true

/-- The outcome of a run that came to its end. -/
def endedOutcome (record : Record) (m : Machine) (r : Machine.Run) : Outcome where
  name := record.name
  verdict := (Outcome.judge record m.output.last? r.stop).1
  expected := record.expected
  observed := m.output.last?
  outputs := m.outputs
  cycles := r.executed
  message := (Outcome.judge record m.output.last? r.stop).2.1

/-- The outcome of a program that failed. -/
def failedOutcome (record : Record) (m : Machine) (f : Fault) : Outcome where
  name := record.name
  verdict := .executionError
  expected := record.expected
  observed := m.output.last?
  outputs := m.outputs
  cycles := m.registers.cycles
  errorKind := some f.kind.name
  message := f.message

section

variable (record : Record) (m : Machine)

/-- The value written last is the last of the values written. -/
lemma last?_output : m.output.last? = m.outputs.getLast? :=
  Array.getLast?_toList m.output.values |>.symm

/-- What the verdict on a run that comes to its end can be, and why. -/
lemma judge_cases (observed : Option Int) (stop : Stop) :
    (stop = .timeout ∧ (Outcome.judge record observed stop).1 = .budgetExceeded) ∨
    (stop = .halt ∧ (record.expected = none ∨
        ∃ value, observed = some value ∧ record.expected = some value) ∧
      (Outcome.judge record observed stop).1 = .pass) ∨
    (stop = .halt ∧ (∃ value, record.expected = some value ∧ observed ≠ some value) ∧
      (Outcome.judge record observed stop).1 = .resultMismatch) := by
  unfold Outcome.judge
  split
  · exact .inl ⟨rfl, rfl⟩
  · split
    · next hexpected => exact .inr (.inl ⟨rfl, .inl hexpected, rfl⟩)
    · next expected hexpected => exact .inr (.inr ⟨rfl, ⟨expected, hexpected, nofun⟩, rfl⟩)
    · next expected value hexpected =>
      split
      · next heq => exact .inr (.inl ⟨rfl, .inr ⟨value, rfl, heq ▸ hexpected⟩, rfl⟩)
      · next hne => exact .inr (.inr ⟨rfl, ⟨expected, hexpected, by simpa using hne⟩, rfl⟩)

/-- A program that halts passes if nothing is expected of it, or what it wrote last. -/
lemma judge_eq_pass_iff (observed : Option Int) (stop : Stop) :
    (Outcome.judge record observed stop).1 = .pass ↔ stop = .halt ∧
      (record.expected = none ∨ ∃ value, observed = some value ∧ record.expected = some value) := by
  grind [judge_cases record observed stop]

/-- It is mismatched if it did not write last what is expected. -/
lemma judge_eq_resultMismatch_iff (observed : Option Int) (stop : Stop) :
    (Outcome.judge record observed stop).1 = .resultMismatch ↔ stop = .halt ∧
      ∃ value, record.expected = some value ∧ observed ≠ some value := by
  grind [judge_cases record observed stop]

/-- A program that does not halt exceeds its budget. -/
lemma judge_eq_budgetExceeded_iff (observed : Option Int) (stop : Stop) :
    (Outcome.judge record observed stop).1 = .budgetExceeded ↔ stop = .timeout := by
  grind [judge_cases record observed stop]

/-- A run that comes to its end is no failure. -/
lemma judge_ne_executionError (observed : Option Int) (stop : Stop) :
    (Outcome.judge record observed stop).1 ≠ .executionError := by
  grind [judge_cases record observed stop]

/-- There is an outcome of a run that came to its end if the numbers in its message can be
written. -/
lemma ofRun_eq_ok_iff {r : Machine.Run} {o : Outcome} : Outcome.ofRun record m r = .ok o ↔
    (∀ n ∈ (Outcome.judge record m.output.last? r.stop).2.2, Text.isWritable n = true) ∧
      o = endedOutcome record m r := by
  unfold Outcome.ofRun
  dsimp only
  constructor
  · intro h
    obtain ⟨message, hmessage, rfl⟩ := map_eq_ok_iff.mp h
    obtain ⟨hnumbers, rfl⟩ := Text.withIntegers_eq_ok_iff.mp hmessage
    exact ⟨hnumbers, rfl⟩
  · rintro ⟨hnumbers, rfl⟩
    rw [Text.withIntegers_of_isWritable hnumbers]
    rfl

/-- There is one of a program that failed if the fault can be put into words. -/
lemma ofFault_eq_ok_iff {f : Fault} {o : Outcome} :
    Outcome.ofFault record m f = .ok o ↔ f.isWritable = true ∧ o = failedOutcome record m f := by
  unfold Outcome.ofFault
  split
  · next h => simp [h, failedOutcome, eq_comm]
  · next h => simp [h]

/-- Otherwise a number cannot be written. -/
lemma writing_of_ofRun {r : Machine.Run} {e : Text.Overflow}
    (h : Outcome.ofRun record m r = .error e) : e = .writing := by
  unfold Outcome.ofRun at h
  dsimp only at h
  exact (Text.withIntegers_eq_error_iff.mp (map_eq_error_iff.mp h)).2

lemma writing_of_ofFault {f : Fault} {e : Text.Overflow}
    (h : Outcome.ofFault record m f = .error e) : e = .writing := by
  unfold Outcome.ofFault at h
  split at h
  · cases h
  · exact (Except.error.inj h).symm

/-- The outcome of a run that comes to its end classifies the end and what was written. -/
lemma classifies_endedOutcome (r : Machine.Run) :
    Classifies record (.ok (m.outputs, r.stop)) (endedOutcome record m r) where
  name := rfl
  expected := rfl
  executionError_iff := by
    simp [endedOutcome, judge_ne_executionError]
  budgetExceeded_iff := by
    simp [endedOutcome, judge_eq_budgetExceeded_iff]
  pass_iff := by
    simp [endedOutcome, judge_eq_pass_iff, last?_output]
  resultMismatch_iff := by
    simp [endedOutcome, judge_eq_resultMismatch_iff, last?_output]
  error := by
    rintro e ⟨⟩
  errorKind := fun ended hended => rfl
  observed := last?_output m
  outputs := by
    rintro outputs stop ⟨⟩
    rfl

/-- The outcome of a program that failed classifies the failure. -/
lemma classifies_failedOutcome {f : Fault} (hown : f.isOwn = true) :
    Classifies record (.error (.fault f)) (failedOutcome record m f) where
  name := rfl
  expected := rfl
  executionError_iff := by simp [failedOutcome]
  budgetExceeded_iff := by simp [failedOutcome]
  pass_iff := by simp [failedOutcome]
  resultMismatch_iff := by simp [failedOutcome]
  error := by
    rintro e ⟨⟩
    exact ⟨f, rfl, hown, rfl, rfl⟩
  errorKind := by
    rintro ended ⟨⟩
  observed := last?_output m
  outputs := by
    rintro outputs stop ⟨⟩

end

section

variable {image inputs : List Datum} {budget : Nat} {record : Record}

/-- The outcome of a program that is not taken counts nothing. -/
lemma counts_of_not_prepared (h : ¬ ∃ ready, Prepared image inputs ready) (f : Fault) {m : Machine}
    (fresh : m.registers = {} ∧ m.output = {}) :
    Counts image inputs budget (.error (.fault f)) (failedOutcome record m f) := by
  obtain ⟨hregisters, houtput⟩ := fresh
  have hcycles : (failedOutcome record m f).cycles = 0 := by
    rw [failedOutcome, hregisters]
  have houtputs : (failedOutcome record m f).outputs = [] := by
    rw [failedOutcome, outputs, houtput]
  exact {
    le := by omega
    eq_of_budgetExceeded := by rintro ⟨⟩
    refused := fun _ => ⟨rfl, hcycles, houtputs⟩
    completed := fun ready prepared => absurd ⟨ready, prepared⟩ h }

/-- The outcome of a program that comes to its end counts what it completed. -/
lemma counts_endedOutcome {ready m after : Machine} {r : Machine.Run}
    (h : Prepared image inputs ready) (completes : Completes ready r.executed after)
    (houtput : m.output = after.output) (le : r.executed ≤ budget)
    (ends : EndsAfter budget r.executed after (.ok (m.outputs, r.stop))) :
    Counts image inputs budget (.ok (m.outputs, r.stop)) (endedOutcome record m r) where
  le := by
    change (r.executed : Int) ≤ budget
    omega
  eq_of_budgetExceeded hverdict := by
    rw [(judge_eq_budgetExceeded_iff record _ _).mp hverdict] at ends
    rw [← ends.2]
    rfl
  refused hrefused := absurd ⟨ready, h⟩ hrefused
  completed ready' h' := by
    obtain rfl := h.unique h'
    refine ⟨r.executed, after, completes, ends, rfl, ?_⟩
    change m.outputs = after.outputs
    rw [outputs, houtput, outputs]

/-- The outcome of a program that fails counts what it completed before. -/
lemma counts_failedOutcome {ready before failed : Machine} {f : Fault} {k : Nat}
    (h : Prepared image inputs ready) (lt : k < budget) (completes : Completes ready k before)
    (step : before.step = (failed, .error f)) :
    Counts image inputs budget (.error (.fault f)) (failedOutcome record failed f) := by
  -- the failing step neither counts nor writes
  obtain ⟨-, hcounted⟩ := registers_of_step_error (m := before) (f := f) (by rw [step])
  obtain ⟨-, -, hwritten⟩ := data_of_step_error (m := before) (f := f) (by rw [step])
  rw [step] at hcounted hwritten
  have hcycles : (failedOutcome record failed f).cycles = k := by
    rw [failedOutcome, hcounted, completes.cycles, h.fresh.1]
    exact Int.zero_add k
  have houtputs : (failedOutcome record failed f).outputs = before.outputs := by
    rw [failedOutcome, outputs, hwritten, outputs]
  exact {
    le := by omega
    eq_of_budgetExceeded := by rintro ⟨⟩
    refused := fun hrefused => absurd ⟨ready, h⟩ hrefused
    completed := fun ready' h' => by
      obtain rfl := h.unique h'
      exact ⟨k, before, completes, ⟨failed, f, step, rfl⟩, hcycles, houtputs⟩ }

end

/-! ### Trials -/

section

variable {image : List Datum} {record : Record}

/-- The outcome of a trial is read off what its program comes to. -/
lemma trial_of_program {ended : Machine × Except Machine.Error Machine.Run} :
    runProgram {} image record.inputs (record.budget.getD defaultBudget) = ended →
      (trial image record).2 = match ended with
        | (after, .ok r) => (Outcome.ofRun record after r).mapError .overflow
        | (after, .error (.fault f)) => (Outcome.ofFault record after f).mapError .overflow
        | (_, .error (.negativeBudget budget)) => .error (.negativeBudget budget)
        | (_, .error (.overflow o)) => .error (.overflow o) := by
  intro h
  unfold trial
  rw [h]
  rcases ended with ⟨after, (f | budget | o) | r⟩ <;> rfl

section

variable {after : Machine} {r : Machine.Run} {f : Fault} {o : Outcome}

/-- If there is an outcome of a program that came to its end, it is the one of its run. -/
lemma eq_endedOutcome
    (h : runProgram {} image record.inputs (record.budget.getD defaultBudget) = (after, .ok r))
    (ho : (trial image record).2 = .ok o) : o = endedOutcome record after r := by
  rw [trial_of_program h] at ho
  exact ((ofRun_eq_ok_iff _ _).mp (mapError_eq_ok_iff.mp ho)).2

/-- If there is one of a program that failed, it is the one of the fault, which is reported as one
of the machine's own. -/
lemma eq_failedOutcome
    (h : runProgram {} image record.inputs (record.budget.getD defaultBudget) =
      (after, .error (.fault f)))
    (ho : (trial image record).2 = .ok o) :
    f.isOwn = true ∧ o = failedOutcome record after f := by
  have hcases := runProgram_cases image record.inputs (record.budget.getD defaultBudget)
  rw [h] at hcases
  rw [trial_of_program h] at ho
  obtain ⟨hwritable, rfl⟩ := (ofFault_eq_ok_iff _ _).mp (mapError_eq_ok_iff.mp ho)
  obtain hcases | ⟨-, ready, -, hrefused⟩ := hcases
  · exact ⟨Bool.and_eq_true_iff.mpr ⟨hcases.isOwn.1, hwritable⟩, rfl⟩
  · cases hrefused

end

/-- The value that a program wrote last can be written. -/
lemma isWritable_last? {inputs : List Datum} {ready after : Machine} {k : Nat}
    (prepared : Prepared image inputs ready) (completes : Completes ready k after) :
    ∀ w ∈ after.output.last?, Text.isWritable w = true := by
  have hrange : after.InRange := completes.keeps (fun _ h => h.step) prepared.inRange.1
  intro w hw
  rw [last?_output] at hw
  exact Text.isWritable_of_isWord (hrange.outputs w (List.mem_of_getLast? hw))

/-- The reason for a verdict has no other numbers than the expected one, the observed one and the
budget. -/
lemma isWritable_of_mem_judge {observed : Option Int} {stop : Stop} {k : Int}
    (hexpected : ∀ value ∈ record.expected, Text.isWritable value = true)
    (hbudget : ∀ n ∈ record.budget, Text.isWritable n = true)
    (hobserved : ∀ value ∈ observed, Text.isWritable value = true)
    (hk : k ∈ (Outcome.judge record observed stop).2.2) : Text.isWritable k = true := by
  unfold Outcome.judge at hk
  split at hk
  · exact hbudget k (Option.mem_toList.mp hk)
  · split at hk
    · cases hk
    · cases hk
    · next expected value hrecord =>
      split at hk
      · exact hobserved k (Option.mem_def.mpr (congrArg some (List.mem_singleton.mp hk).symm))
      · rcases List.mem_pair.mp hk with rfl | rfl
        · exact hexpected k hrecord
        · exact hobserved k rfl

/-- The budget of a run can be written if that of the record can. -/
lemma IsShowable.isWritable_budget (h : IsShowable image record) :
    Text.isWritable (record.budget.getD defaultBudget) = true := by
  cases hbudget : record.budget with
  | none => exact (by decide : Text.isWritable defaultBudget = true)
  | some n => exact h.budget n hbudget

/-- The run of a program has an outcome if the numbers that it can show can be written. -/
lemma exists_outcome_of_program {n : Nat} {ended : Machine × Except Machine.Error Machine.Run}
    (hshow : IsShowable image record) (hbudget : Text.isWritable n = true)
    (h : runProgram {} image record.inputs (record.budget.getD defaultBudget) = ended)
    (hcases : ProgramCases image record.inputs n ended) : ∃ o, (trial image record).2 = .ok o := by
  rw [trial_of_program h]
  have hfault {after : Machine} {f : Fault}
      (hcases : ProgramCases image record.inputs n (after, .error (.fault f))) :
      ∃ o, (Outcome.ofFault record after f).mapError Error.overflow = .ok o :=
    ⟨_, mapError_eq_ok_iff.mpr ((ofFault_eq_ok_iff _ _).mpr
      ⟨hcases.isOwn.2 hshow.image hshow.inputs hbudget, rfl⟩)⟩
  have hrun {ready before after : Machine} {r : Machine.Run} {k : Nat}
      (prepared : Prepared image record.inputs ready) (completes : Completes ready k before)
      (hlast : after.output = before.output) :
      ∃ o, (Outcome.ofRun record after r).mapError Error.overflow = .ok o := by
    refine ⟨_, mapError_eq_ok_iff.mpr ((ofRun_eq_ok_iff _ _).mpr ⟨fun k hk => ?_, rfl⟩)⟩
    rw [hlast] at hk
    exact isWritable_of_mem_judge hshow.expected hshow.budget (isWritable_last? prepared completes)
      hk
  have hwhole := hcases
  cases hcases with
  | unloaded f load => exact hfault hwhole
  | unfed loaded f load inject => exact hfault hwhole
  | ran ready prepared ended run =>
    cases run with
    | halt k after le completes halted => exact hrun prepared completes rfl
    | timeout after completes running => exact hrun prepared completes rfl
    | fault k before failed f lt completes step => exact hfault hwhole

/-- A trial is refused for a number that the outcome should show, or for its budget: then that is
negative and its program could be run. -/
theorem trial_refused {e : Error} (h : (trial image record).2 = .error e) :
    e = .overflow .writing ∧ ¬ IsShowable image record ∨
    ∃ budget, e = .negativeBudget budget ∧
      record.budget = some budget ∧ budget < 0 ∧ ∃ ready, Prepared image record.inputs ready := by
  have hfault {after : Machine} {f : Fault}
      (h : (Outcome.ofFault record after f).mapError .overflow = .error e) :
      e = .overflow .writing := by
    obtain ⟨o, ho, rfl⟩ := mapError_eq_error_iff.mp h
    rw [writing_of_ofFault _ _ ho]
  have hrun {after : Machine} {r : Machine.Run}
      (h : (Outcome.ofRun record after r).mapError .overflow = .error e) :
      e = .overflow .writing := by
    obtain ⟨o, ho, rfl⟩ := mapError_eq_error_iff.mp h
    rw [writing_of_ofRun _ _ ho]
  obtain hcases | ⟨hneg, ready, prepared, hrefused⟩ :=
    runProgram_cases image record.inputs (record.budget.getD defaultBudget)
  · have hshow : ¬ IsShowable image record := fun hshow => by
      have hbudget : Text.isWritable (record.budget.getD defaultBudget).toNat = true :=
        Text.isWritable_of_natAbs_le hshow.isWritable_budget (by omega)
      obtain ⟨o, ho⟩ := exists_outcome_of_program hshow hbudget rfl hcases
      cases h.symm.trans ho
    rw [trial_of_program rfl] at h
    refine .inl ⟨?_, hshow⟩
    generalize runProgram {} image record.inputs (record.budget.getD defaultBudget) = ended
      at h hcases
    cases hcases with
    | unloaded f load => exact hfault h
    | unfed loaded f load inject => exact hfault h
    | ran ready prepared ended run =>
      rcases ended with ⟨after, f | r⟩
      · exact hfault h
      · exact hrun h
  · rw [trial_of_program hrefused] at h
    cases hbudget : record.budget with
    | none =>
      rw [hbudget] at hneg
      exact absurd hneg (by decide)
    | some budget =>
      rw [hbudget, Option.getD_some] at h hneg
      exact .inr ⟨budget, (Except.error.inj h).symm, rfl, hneg, ready, prepared⟩

/-- So there is an outcome if the numbers that it can show can be written and the budget is not
negative. -/
lemma exists_outcome {n : Nat} (h : IsShowable image record) (hbudget : record.budget = some n) :
    ∃ o, (trial image record).2 = .ok o := by
  cases htrial : (trial image record).2 with
  | ok o => exact ⟨o, rfl⟩
  | error e =>
    obtain ⟨-, hshow⟩ | ⟨budget, -, hbudget', hneg, -⟩ := trial_refused htrial
    · exact absurd h hshow
    · obtain rfl := Option.some.inj (hbudget.symm.trans hbudget')
      exact absurd hneg (Int.not_lt.mpr (Int.natCast_nonneg n))

/-- A program that could be run is refused if its budget is negative. -/
lemma trial_of_neg {budget : Int} (hbudget : record.budget = some budget) (hneg : budget < 0)
    {ready : Machine} (prepared : Prepared image record.inputs ready) :
    (trial image record).2 = .error (.negativeBudget budget) := by
  obtain ⟨loaded, load, inject⟩ := prepared
  have hrun : runProgram {} image record.inputs (record.budget.getD defaultBudget) =
      (ready, .error (.negativeBudget budget)) := by
    unfold runProgram
    simp only [load, inject]
    rw [hbudget, Option.getD_some, run_of_neg ready hneg]
  rw [trial_of_program hrun]

end

/-- The verdict on a record is a faithful classification of what executing its program comes to. A
trial of a record with a budget is not refused, unless a number that the outcome should show has too
many digits to be written. -/
theorem trial_classifies (image : List Datum) (name : Text) (inputs : List Datum)
    (expected : Option Int) (budget : Nat) :
    (∀ o, (trial image ⟨name, inputs, expected, some budget⟩).2 = .ok o →
      Classifies ⟨name, inputs, expected, some budget⟩ (execute image inputs budget) o ∧
      Counts image inputs budget (execute image inputs budget) o) ∧
    ((∃ o, (trial image ⟨name, inputs, expected, some budget⟩).2 = .ok o) ∨
      (trial image ⟨name, inputs, expected, some budget⟩).2 = .error (.overflow .writing) ∧
        ¬ IsShowable image ⟨name, inputs, expected, some budget⟩) := by
  refine ⟨fun o ho => ?_, ?_⟩
  · have hcases := program_cases image inputs budget
    unfold execute
    generalize hended : runProgram {} image inputs budget = ended at hcases
    cases hcases with
    | unloaded f hload =>
      obtain ⟨hown, rfl⟩ := eq_failedOutcome hended ho
      exact ⟨classifies_failedOutcome _ _ hown,
        counts_of_not_prepared (not_prepared_of_load hload) f ⟨rfl, rfl⟩⟩
    | unfed loaded f hload hinject =>
      obtain ⟨hown, rfl⟩ := eq_failedOutcome hended ho
      exact ⟨classifies_failedOutcome _ _ hown,
        counts_of_not_prepared (not_prepared_of_inject hload hinject) f (fresh_of_load hload)⟩
    | ran ready prepared ended run =>
      cases run with
      | halt k after le completes halted =>
        obtain rfl := eq_endedOutcome hended ho
        exact ⟨classifies_endedOutcome _ _ _, counts_endedOutcome prepared completes rfl le halted⟩
      | timeout after completes running =>
        obtain rfl := eq_endedOutcome hended ho
        exact ⟨classifies_endedOutcome _ _ _,
          counts_endedOutcome prepared completes rfl (Nat.le_refl budget) ⟨running, rfl⟩⟩
      | fault k before failed f lt completes step =>
        obtain ⟨hown, rfl⟩ := eq_failedOutcome hended ho
        exact ⟨classifies_failedOutcome _ _ hown, counts_failedOutcome prepared lt completes step⟩
  · cases htrial : (trial image ⟨name, inputs, expected, some budget⟩).2 with
    | ok o => exact .inl ⟨o, rfl⟩
    | error e =>
      obtain ⟨rfl, hshow⟩ | ⟨negative, -, hbudget, hneg, -⟩ := trial_refused htrial
      · exact .inr ⟨rfl, hshow⟩
      · obtain rfl := Option.some.inj hbudget
        exact absurd hneg (Int.not_lt.mpr (Int.natCast_nonneg budget))

/-- The expected value must be shown where another one was written. -/
lemma ofRun_of_unwritable {record : Record} {m : Machine} {k : Nat} {value expected : Int}
    (hlast : m.output.last? = some value) (hrecord : record.expected = some expected)
    (hne : value ≠ expected) (hlong : Text.isWritable expected = false) :
    Outcome.ofRun record m ⟨.halt, k⟩ = .error .writing := by
  have hnumbers : (Outcome.judge record (some value) .halt).2.2 = [expected, value] := by
    unfold Outcome.judge
    rw [hrecord]
    dsimp only
    rw [if_neg hne]
  unfold Outcome.ofRun
  dsimp only
  rw [hlast, hnumbers]
  exact map_eq_error_iff.mpr
    (Text.withIntegers_eq_error_iff.mpr ⟨⟨expected, List.mem_cons_self, hlong⟩, rfl⟩)

/-- So there is no outcome of a program that halts with a zero written, if a number with too many
digits is expected. -/
theorem exists_trial_without_outcome : ∃ (image : List Datum) (record : Record),
    record.budget = some 5 ∧ execute image record.inputs 5 = .ok ([0], .halt) ∧
      (trial image record).2 = .error (.overflow .writing) := by
  refine ⟨[.integer 902, .integer 0],
    ⟨"big", [], some ((10 ^ Text.digitLimit : Nat) : Int), some 5⟩, rfl, by decide +kernel, ?_⟩
  have hended : (runProgram {} [.integer 902, .integer 0] [] 5).2 = .ok ⟨.halt, 2⟩ := by
    decide +kernel
  have hlast : (runProgram {} [.integer 902, .integer 0] [] 5).1.output.last? = some 0 := by
    decide +kernel
  have hne : (0 : Int) ≠ ((10 ^ Text.digitLimit : Nat) : Int) := by
    have hpos : 0 < 10 ^ Text.digitLimit := Nat.pow_pos (by decide)
    omega
  unfold trial
  dsimp only [Option.getD_some]
  generalize runProgram {} [.integer 902, .integer 0] [] 5 = ended at hended hlast
  obtain ⟨after, result⟩ := ended
  obtain rfl : result = .ok ⟨.halt, 2⟩ := hended
  exact mapError_eq_error_iff.mpr
    ⟨_, ofRun_of_unwritable hlast rfl hne Text.not_isWritable_pow, rfl⟩

end Batch

end LittleMan
