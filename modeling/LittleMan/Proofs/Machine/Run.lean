import LittleMan.Machine.Request
import LittleMan.Proofs.Instruction
import LittleMan.Proofs.Machine.Step

/-!
# Induction over runs and sessions

What every part of a step keeps, every step keeps (`step_induction`); what every step keeps, every
run keeps (`run_induction`); and what every request keeps, every session keeps
(`session_induction`). The inductions are made here once, for an arbitrary property of machines.
-/

namespace LittleMan

namespace Machine

section

variable {P : Machine → Prop}

/-! ### Steps -/

/-- What an end by a fault leaves when the records do not matter. -/
lemma fail_induction (htell : ∀ m e, P m → P (m.tell e)) (hnote : ∀ m e, P m → P (m.note e))
    {m : Machine} (h : P m) (address cycle : Int) (cause : Fault.Cause) :
    P (m.fail address cycle cause).1 := by
  unfold fail tellFault
  dsimp only
  split
  · exact hnote _ _ (htell m _ h)
  · exact h

/-- What moving the counter on, every instruction on an address and counting the cycle keep, a step
keeps, provided that the records do not matter. -/
theorem step_induction (htell : ∀ m e, P m → P (m.tell e)) (hnote : ∀ m e, P m → P (m.note e))
    (hadvanced : ∀ m, P m → P m.advanced)
    (hperform : ∀ m i, (∀ a, i.operand? = some a → IsAddress a) → P m → P (m.perform i).1)
    (hcounted : ∀ m, P m → P m.counted) {m : Machine} (h : P m) : P m.step.1 := by
  have hfetched (word : Int) : P (m.fetched word) :=
    hnote _ _ (htell _ _ (hadvanced m h))
  have hcases := m.step_cases
  generalize m.step = r at hcases
  cases hcases with
  | halted => exact h
  | unfetched cause => exact fail_induction htell hnote h _ _ _
  | undecoded word => exact fail_induction htell hnote (hadvanced m h) _ _ _
  | failed word i after cause running read decode perform =>
    have hafter := hperform _ i (fun _ => Instruction.isAddress_of_decode? decode) (hfetched word)
    rw [perform] at hafter
    exact fail_induction htell hnote hafter _ _ _
  | completed word i after running read decode perform =>
    have hafter := hperform _ i (fun _ => Instruction.isAddress_of_decode? decode) (hfetched word)
    have hcycles := (m.fetched word).perform_cycles i
    rw [perform] at hafter hcycles
    rw [fetched_registers] at hcycles
    have hcount := hcounted after hafter
    unfold counted at hcount
    rw [hcycles] at hcount
    unfold complete
    split
    · exact hnote _ _ hcount
    · exact hcount

/-- A step registers no watcher and ends no registration. -/
lemma step_watchers (m : Machine) : m.step.1.memory.watchers = m.memory.watchers :=
  step_induction (fun m e h => (congrArg Memory.watchers (m.tell_memory e)).trans h)
    (fun _ _ h => h) (fun _ h => h) (fun m i _ h => (m.perform_watchers i).trans h) (fun _ h => h)
    rfl

/-! ### Runs -/

/-- What every step keeps, the continuation of a run keeps. -/
lemma continueRun_induction (hstep : ∀ m, P m → P m.step.1) (executed budget : Nat) {m : Machine}
    (h : P m) : P (continueRun executed budget m).1 := by
  induction budget generalizing executed m with
  | zero => exact h
  | succ budget ih =>
    have hafter := hstep m h
    unfold continueRun
    split
    · next after f heq =>
      rw [heq] at hafter
      exact hafter
    · next after stop heq =>
      rw [heq] at hafter
      exact hafter
    · next after heq =>
      rw [heq] at hafter
      exact ih (executed + 1) hafter

/-- What every step keeps, a run keeps, provided that the record of events does not matter. -/
lemma runFor_induction (hstep : ∀ m, P m → P m.step.1) (hnote : ∀ m e, P m → P (m.note e))
    (budget : Nat) {m : Machine} (h : P m) : P (m.runFor budget).1 := by
  have hrun := continueRun_induction hstep 0 budget h
  unfold runFor
  split
  · exact h
  · split
    · next after executed heq =>
      rw [heq] at hrun
      exact hnote after _ hrun
    · exact hrun

/-- A run with a negative budget is refused. -/
lemma run_of_neg (m : Machine) {budget : Int} (h : budget < 0) :
    m.run budget = (m, .error (.negativeBudget budget)) := by
  unfold run
  rw [if_pos h]

/-- A run within a budget that is not negative. -/
lemma run_ofNat (m : Machine) (budget : Nat) :
    m.run budget = ((m.runFor budget).1, (m.runFor budget).2.mapError .fault) := by
  unfold run
  rw [if_neg (by omega), Int.toNat_natCast]
  rcases m.runFor budget with ⟨after, f | r⟩ <;> rfl

/-- A run of a machine that has halted executes nothing. -/
lemma run_of_halted {m : Machine} (halted : m.registers.halted = true) (budget : Nat) :
    m.run budget = (m, .ok ⟨.halt, 0⟩) := by
  rw [run_ofNat, runFor, if_pos halted]
  rfl

/-- Whatever its budget, it leaves the machine alone. -/
lemma run_fst_of_halted {m : Machine} (halted : m.registers.halted = true) (budget : Int) :
    (m.run budget).1 = m := by
  rcases Int.lt_or_le budget 0 with hneg | hbudget
  · rw [run_of_neg m hneg]
  · obtain ⟨n, rfl⟩ := Int.eq_ofNat_of_zero_le hbudget
    rw [run_of_halted halted]

/-- What every step keeps, a run keeps, whatever its budget. -/
theorem run_induction (hstep : ∀ m, P m → P m.step.1) (hnote : ∀ m e, P m → P (m.note e))
    (budget : Int) {m : Machine} (h : P m) : P (m.run budget).1 := by
  rcases Int.lt_or_le budget 0 with hneg | hbudget
  · rw [run_of_neg m hneg]
    exact h
  · obtain ⟨n, rfl⟩ := Int.eq_ofNat_of_zero_le hbudget
    rw [run_ofNat]
    exact runFor_induction hstep hnote n h

end

/-! ### Loading and injecting -/

section

variable (m after : Machine)

/-- Loading an image replaces the memory and puts the registers back to power-on. -/
lemma load_eq_ok_iff (image : List Datum) :
    m.load image = .ok after ↔ ∃ memory, m.memory.load image = .ok memory ∧
      after = { m with memory, registers := {} }.note (.loadedImage image.length) := by
  unfold load
  cases m.memory.load image with
  | error cause => simp
  | ok memory => simp [eq_comm]

/-- Up to a hundred integers that are words are loaded, with zeros behind them. -/
lemma load_integers {words : List Int} (hlength : words.length ≤ 100)
    (hwords : ∀ w ∈ words, IsWord w) : m.load (words.map .integer) =
      .ok ({ m with memory := { m.memory with cells := padded words }, registers := {} }.note
        (.loadedImage words.length)) := by
  rw [load_eq_ok_iff]
  refine ⟨_, m.memory.load_integers hlength hwords, ?_⟩
  rw [List.length_map]

/-- Loading machine-code text does the same with the words of the text. -/
lemma loadText_eq_ok_iff (text : Text) :
    m.loadText text = .ok after ↔ ∃ memory, loadWords m.memory text = .ok memory ∧
      after = { m with memory, registers := {} }.note .loadedText := by
  unfold loadText
  cases loadWords m.memory text with
  | error cause => simp
  | ok memory => simp [eq_comm]

/-- Injecting replaces the input tray. -/
lemma inject_eq_ok_iff (inputs : List Datum) :
    m.inject inputs = .ok after ↔
      ∃ input, m.input.inject inputs = .ok input ∧ after = { m with input } := by
  unfold inject
  cases m.input.inject inputs with
  | error cause => simp
  | ok input => simp [eq_comm]

end

/-! ### Requests -/

section

variable (m : Machine)

/-- A step that is asked for leaves what the step leaves. -/
lemma handle_step : (m.handle .step).1 = m.step.1 := by
  unfold handle
  dsimp only
  split
  · next heq => rw [heq]
  · next heq => rw [heq]

/-- A run that is asked for leaves what the run leaves. -/
lemma handle_run (budget : Int) : (m.handle (.run budget)).1 = (m.run budget).1 := by
  unfold handle
  dsimp only
  split
  · next heq => rw [heq]
  · next heq => rw [heq]

/-- A write that is asked for records the calls of watchers, also if it is refused. -/
lemma handle_write (a value : Int) : m.handle (.write a value) =
    { m with sightings := m.sightings ++ (m.memory.write a value).1 }.withMemory
      (m.memory.write a value).2 := rfl

end

section

variable {P : Machine → Prop}

/-- What every request of a kind keeps, every session of such requests keeps. -/
theorem session_induction {kind : Request → Prop}
    (hhandle : ∀ m request, kind request → P m → P (m.handle request).1) {m : Machine}
    {requests : List Request} (hkind : ∀ request ∈ requests, kind request) (h : P m) :
    P (m.session requests) := by
  induction requests generalizing m with
  | nil => exact h
  | cons request rest ih =>
    exact ih (fun r hr => hkind r (List.mem_cons_of_mem request hr))
      (hhandle m request (hkind request List.mem_cons_self) h)

end

end Machine

end LittleMan
