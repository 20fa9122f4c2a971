import LittleMan.Proofs.Machine.Execution

/-!
# Failing instructions

An instruction fails after the counter has moved on and after watchers have been called, but before
anything else has happened. So a failing step changes the counter and no other register, no mailbox
and no tray, and the records of what the machine did go on (`failsInto_of_step`). A fault of the
machine's own kinds tells which mailbox and which cycle it was, in numbers and in words; what a
watcher raises besides has no place.

A run that fails ends with such a step. What it leaves is the data of the machine behind the last
instruction that was completed, and the cycles count those instructions (`failure_moves_counter`).
-/

namespace LittleMan

/-- A fault with a place tells it behind its reason. -/
lemma Fault.message_of_place (cause : Cause) (address cycle : Int) :
    (Fault.mk cause (some address) (some cycle)).message = cause.reason ++ " (cycle " ++
      Text.decimal cycle ++ ", mailbox " ++ Text.zeroPadded 2 address ++ ")" := by
  simp [message, place, reason, List.intercalate, List.append_assoc]

namespace Machine

/-! ### Records -/

/-- The records of what a machine did go on from one machine to another, and whether it keeps a
trace stays. -/
structure GoesOn (m after : Machine) : Prop where
  tracing : after.tracing = m.tracing
  trace : m.trace.toList <+: after.trace.toList
  sightings : m.sightings.toList <+: after.sightings.toList
  events : m.events.toList <+: after.events.toList

section

variable {m now after : Machine}

lemma GoesOn.refl (m : Machine) : GoesOn m m :=
  ⟨rfl, List.prefix_rfl, List.prefix_rfl, List.prefix_rfl⟩

lemma GoesOn.trans (h : GoesOn m now) (h' : GoesOn now after) : GoesOn m after :=
  ⟨h'.tracing.trans h.tracing, h.trace.trans h'.trace, h.sightings.trans h'.sightings,
    h.events.trans h'.events⟩

/-- An event is put behind the others. -/
lemma goesOn_note (m : Machine) (e : Event) : GoesOn m (m.note e) :=
  ⟨rfl, List.prefix_rfl, List.prefix_rfl, ⟨[e], Array.toList_push.symm⟩⟩

/-- So is an entry of the trace, if there is one. -/
lemma goesOn_tell (m : Machine) (e : TraceEntry) : GoesOn m (m.tell e) := by
  unfold tell
  split
  · exact ⟨rfl, ⟨[e], Array.toList_push.symm⟩, List.prefix_rfl, List.prefix_rfl⟩
  · exact .refl m

/-- Calls of watchers are put behind the earlier ones. -/
lemma goesOn_sightings (m : Machine) (calls : List Sighting) :
    GoesOn m { m with sightings := m.sightings ++ calls } :=
  ⟨rfl, List.prefix_rfl, ⟨calls, by simp⟩, List.prefix_rfl⟩

/-- A fault is recorded behind everything else. -/
lemma goesOn_fail (m : Machine) (address cycle : Int) (cause : Fault.Cause) :
    GoesOn m (m.fail address cycle cause).1 := by
  unfold fail tellFault
  dsimp only
  split
  · exact (goesOn_tell m _).trans (goesOn_note _ _)
  · exact .refl m

/-- Nothing is recorded of the counter. -/
lemma goesOn_advanced (m : Machine) : GoesOn m m.advanced :=
  ⟨rfl, List.prefix_rfl, List.prefix_rfl, List.prefix_rfl⟩

/-- A word that was fetched is recorded behind everything else. -/
lemma goesOn_fetched (m : Machine) (word : Int) : GoesOn m (m.fetched word) :=
  (goesOn_advanced m).trans ((goesOn_tell m.advanced _).trans (goesOn_note _ _))

/-- The records go on with a step that fails. -/
lemma goesOn_of_step_error {f : Fault} (h : m.step = (after, .error f)) : GoesOn m after := by
  have hcases := m.step_cases
  rw [h] at hcases
  generalize hended : (after, Except.error f) = ended at hcases
  cases hcases with
  | halted => cases hended
  | unfetched cause =>
    obtain rfl := congrArg Prod.fst hended
    exact goesOn_fail m _ _ cause
  | undecoded word =>
    obtain rfl := congrArg Prod.fst hended
    exact (goesOn_advanced m).trans (goesOn_fail m.advanced _ _ (.noInstruction word))
  | failed word i performed cause running read decode perform =>
    obtain rfl := congrArg Prod.fst hended
    obtain ⟨calls, rfl⟩ := exists_calls_of_perform perform
    exact ((goesOn_fetched m word).trans (goesOn_sightings _ calls)).trans (goesOn_fail _ _ _ cause)
  | completed word i performed =>
    have hstop := congrArg Prod.snd hended
    rw [complete_stop] at hstop
    cases hstop

end

/-! ### Failing steps -/

/-- A step of the machine `m` that fails with `f` leaves the machine `after`: the data of `m`, the
counter moved on if it could fetch a word, and a fault that tells the place if it is one of the
machine's own kinds. -/
structure FailsInto (m : Machine) (f : Fault) (after : Machine) : Prop where
  memory : after.memory = m.memory
  acc : after.registers.acc = m.registers.acc
  neg : after.registers.neg = m.registers.neg
  cycles : after.registers.cycles = m.registers.cycles
  halted : after.registers.halted = m.registers.halted
  input : after.input = m.input
  output : after.output = m.output
  records : GoesOn m after
  pc : after.registers.pc =
    if IsAddress m.registers.pc then (m.registers.pc + 1) % 100 else m.registers.pc
  address : f.isOwn = true → f.address = some m.registers.pc
  cycle : f.isOwn = true → f.cycle = some (m.registers.cycles + 1)
  message : f.isOwn = true → f.message =
    f.reason ++ " (cycle " ++ Text.decimal (m.registers.cycles + 1) ++
      ", mailbox " ++ Text.zeroPadded 2 m.registers.pc ++ ")"

section

variable {m after : Machine} {f : Fault}

/-- A step that fails changes nothing but the counter. -/
theorem failsInto_of_step (h : m.step = (after, .error f)) : FailsInto m f after := by
  have herror : m.step.2 = .error f := by rw [h]
  have hregisters := registers_eq_of_step_error herror
  obtain ⟨hmemory, hinput, houtput⟩ := data_of_step_error herror
  have hlocated (hown : f.isOwn = true) :
      f = ⟨f.cause, some m.registers.pc, some (m.registers.cycles + 1)⟩ := by
    rw [← Fault.ofCause_of_isOwn _ _ (Fault.isOwn_cause hown)]
    exact (ofCause_of_step_error herror).1
  rw [h] at hregisters hmemory hinput houtput
  dsimp only at hregisters
  exact {
    memory := hmemory
    acc := by rw [hregisters]
    neg := by rw [hregisters]
    cycles := by rw [hregisters]
    halted := by rw [hregisters]
    input := hinput
    output := houtput
    records := goesOn_of_step_error h
    pc := by rw [hregisters]
    address := fun hown => congrArg Fault.address (hlocated hown)
    cycle := fun hown => congrArg Fault.cycle (hlocated hown)
    message := fun hown =>
      (congrArg Fault.message (hlocated hown)).trans (Fault.message_of_place _ _ _) }

/-- A run that fails completes some instructions within its budget, and then comes to one that
fails. -/
lemma exists_completes_of_run_error {n : Int} (h : m.run n = (after, .error (.fault f))) :
    ∃ (k : Nat) (last : Machine), (k : Int) < n ∧ Completes m k last ∧
      last.step = (after, .error f) := by
  rcases Int.lt_or_le n 0 with hneg | hbudget
  · rw [run_of_neg m hneg] at h
    cases h
  · obtain ⟨budget, rfl⟩ := Int.eq_ofNat_of_zero_le hbudget
    rw [run_ofNat] at h
    obtain ⟨hafter, herror⟩ := Prod.mk.inj h
    obtain ⟨e, hrun, he⟩ := mapError_eq_error_iff.mp herror
    obtain rfl := Error.fault.inj he
    have hcases := (m.runFor_eq_iff budget (after, .error e)).mp (Prod.ext hafter hrun)
    cases hcases with
    | fault k last failed f lt completes step =>
      exact ⟨k, last, Int.ofNat_lt.mpr lt, completes, step⟩

end

/-- A failing step moves the counter and changes nothing else. Whatever the registers, the mailboxes
with their watchers and the trays are, the step of a machine that fails leaves all of them as they
were, but for the counter: it has moved on by one, from 99 back to 0, unless it was no address. A
fault of the machine's own kinds tells the mailbox that the counter showed and the cycle that would
have been the next one.

So a run that fails leaves the data of the machine behind the last instruction that it completed,
and has counted as many cycles as it completed instructions. -/
theorem failure_moves_counter :
    (∀ (m after : Machine) (f : Fault), m.registers.halted = false →
      m.step = (after, .error f) → FailsInto m f after) ∧
    ∀ (m after : Machine) (n : Int) (f : Fault), m.run n = (after, .error (.fault f)) →
      ∃ (k : Nat) (last : Machine), (k : Int) < n ∧ Completes m k last ∧
        last.step = (after, .error f) ∧ FailsInto last f after ∧
        after.registers.cycles = m.registers.cycles + k := by
  refine ⟨fun m after f _ h => failsInto_of_step h, ?_⟩
  intro m after n f h
  obtain ⟨k, last, hlt, hcompletes, hstep⟩ := exists_completes_of_run_error h
  have hfails := failsInto_of_step hstep
  exact ⟨k, last, hlt, hcompletes, hstep, hfails, hfails.cycles.trans hcompletes.cycles⟩

/-- A machine that copies the word of mailbox 3 to mailbox 4, which a watcher bars. Its counter and
its accumulator have been assigned. -/
def barred : Machine where
  registers := { acc := -7, pc := 99 }
  memory := ⟨[304, 0, 0, 8, 9] ++ List.replicate 94 0 ++ [503], [(4, .vetoing "guard")]⟩
  input := ⟨[1]⟩
  output := ⟨#[2]⟩

/-- What the watcher makes the copy fail for. -/
def barredCause : Fault.Cause :=
  .declared .general "vetoed by guard"

/-- Run from mailbox 99, it completes one instruction, with which the counter goes back to 0, and
fails with the copy. Put before the copy at once, it fails with its first step. -/
theorem failure_moves_counter_barred :
    (∃ after, { barred with registers := {} }.step =
        (after, .error ⟨barredCause, some 0, some 1⟩) ∧
      FailsInto { barred with registers := {} } ⟨barredCause, some 0, some 1⟩ after) ∧
    ∃ after, barred.run 9 = (after, .error (.fault ⟨barredCause, some 0, some 2⟩)) ∧
      ∃ (k : Nat) (last : Machine), (k : Int) < 9 ∧ Completes barred k last ∧
        last.step = (after, .error ⟨barredCause, some 0, some 2⟩) ∧
        FailsInto last ⟨barredCause, some 0, some 2⟩ after ∧
        after.registers.cycles = 0 + k := by
  have hstep : { barred with registers := {} }.step = ({ barred with registers := {} }.step.1,
      .error ⟨barredCause, some 0, some 1⟩) := Prod.ext rfl (by decide +kernel)
  have hrun : barred.run 9 = ((barred.run 9).1,
      .error (.fault ⟨barredCause, some 0, some 2⟩)) := Prod.ext rfl (by decide +kernel)
  exact ⟨⟨_, hstep, failure_moves_counter.1 _ _ _ rfl hstep⟩,
    _, hrun, failure_moves_counter.2 _ _ _ _ hrun⟩

end Machine

end LittleMan
