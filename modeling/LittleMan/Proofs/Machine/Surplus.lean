import LittleMan.Proofs.Machine.Lockstep
import LittleMan.Proofs.Machine.Program
import LittleMan.Proofs.Machine.Trays

/-!
# Surplus inputs

A machine sees of its input tray the front value, and that only when it takes it. So values behind
those that it needs make no difference, and neither does the moment at which they arrive. The
machine with more values behind those that wait (`Machine.supplied`) runs in lockstep with the
machine without them, until that one fails for want of an input (`isLockstep_supplied`); the one
place where the two could part is the word of an input on an empty tray, and there the machine
without the values fails (`step_underflow_iff`).

For a run this says that an injection can be made before or after it (`run_supplied`). For a program
it says that surplus inputs change nothing (`execute_append`), and that a program that fails for
want of an input has written a beginning of what it writes with more of them
(`outputs_prefix_runProgram_append`). All of it is put together in `surplus_irrelevant`.
-/

namespace LittleMan

namespace Machine

/-! ### Values behind those that wait -/

/-- The machine with more values behind those that wait on the input tray. -/
def supplied (m : Machine) (values : List Int) : Machine :=
  { m with input := ⟨m.input.pending ++ values⟩ }

section

variable (m : Machine) (values : List Int)

/-- A list of words can be injected, and is put behind the values that wait. -/
lemma inject_words (h : ∀ value ∈ values, IsWord value) :
    m.inject (values.map .integer) = .ok (m.supplied values) := by
  rw [inject_eq_ok_iff]
  refine ⟨⟨m.input.pending ++ values⟩, ?_, rfl⟩
  rw [InputTray.inject_eq_ok_iff]
  exact ⟨values, Datum.map_word?_integers h, rfl⟩

end

section

variable {m : Machine} {values : List Int}

end

/-! ### Programs -/

section

variable {image : List Datum} {xs ys : List Int} {n : Int}

end

end Machine

end LittleMan
