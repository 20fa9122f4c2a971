import LittleMan.Proofs.Machine.Budget
import LittleMan.Proofs.Machine.Chronicle

/-!
# What passes over the trays

Nothing is lost on the trays, nothing appears there twice, and nothing changes its place. What
passes over them in a session is its traffic: the values that injections put on the input tray, the
values that instructions and requests take from it, and the values that instructions write to the
output tray. The traffic accounts for the trays (`Carries`): what waited on the input tray, with
what was injected behind it, is what was taken, with what still waits behind it; and the output tray
holds what it held before, with what was written behind it. This is so for one completed instruction
(`Completion.carries`), for one request (`carries_handle`), and then for every session
(`carries_session`).

So the outputs only grow, also in the middle of a run (`Completes.outputs_prefix_run`). And a step
fails for want of an input in one situation only (`step_underflow_iff`).
-/

namespace LittleMan

namespace Machine

/-! ### Traffic -/

/-- What passes over the trays of a machine, each list in the order of time. -/
structure Traffic where
  /-- The values put on the input tray. -/
  injected : List Int := []
  /-- The values taken from the input tray. -/
  taken : List Int := []
  /-- The values written to the output tray. -/
  written : List Int := []

/-- Traffic that goes on with more traffic. -/
instance : Append Traffic :=
  ⟨fun t t' => ⟨t.injected ++ t'.injected, t.taken ++ t'.taken, t.written ++ t'.written⟩⟩

/-- The traffic carries the trays of one machine over to those of another one. -/
structure Carries (before : Machine) (t : Traffic) (after : Machine) : Prop where
  input : before.input.pending ++ t.injected = t.taken ++ after.input.pending
  output : after.outputs = before.outputs ++ t.written

section

variable {before now after : Machine} {t t' : Traffic}

/-- No traffic leaves the trays as they are. -/
lemma carries_refl (m : Machine) : Carries m {} m :=
  ⟨List.append_nil _, (List.append_nil _).symm⟩

/-- Only the trays matter. -/
lemma Carries.congr (h : Carries before t now) (hinput : after.input = now.input)
    (houtput : after.output = now.output) : Carries before t after := by
  refine ⟨?_, ?_⟩
  · rw [hinput]
    exact h.input
  · rw [outputs, houtput]
    exact h.output

/-- Traffic can go on from where other traffic led to. -/
lemma Carries.trans (h : Carries before t now) (h' : Carries now t' after) :
    Carries before (t ++ t') after := by
  refine ⟨?_, ?_⟩
  · calc before.input.pending ++ (t.injected ++ t'.injected)
        = t.taken ++ now.input.pending ++ t'.injected := by rw [← List.append_assoc, h.input]
      _ = t.taken ++ (t'.taken ++ after.input.pending) := by rw [List.append_assoc, h'.input]
      _ = t.taken ++ t'.taken ++ after.input.pending := (List.append_assoc _ _ _).symm
  · calc after.outputs
        = before.outputs ++ t.written ++ t'.written := by rw [h'.output, h.output]
      _ = before.outputs ++ (t.written ++ t'.written) := List.append_assoc _ _ _

end

/-! ### Completed instructions -/

/-- What passes over the trays in a completed instruction: an input takes the value that the
accumulator holds afterwards, and an output writes the one that it held before. -/
def Completion.traffic (c : Completion) : Traffic :=
  match c.instruction with
  | .inp => { taken := [c.after.registers.acc] }
  | .out => { written := [c.before.registers.acc] }
  | _ => {}

/-- An instruction that does not fail takes the front value if it is an input, writes the
accumulator if it is an output, and otherwise leaves the trays alone. -/
lemma trays_of_perform {m after : Machine} {i : Instruction} (h : m.perform i = (after, none)) :
    (if i = .inp then m.input.pending = after.registers.acc :: after.input.pending
      else after.input = m.input) ∧
    after.outputs = m.outputs ++ if i = .out then [m.registers.acc] else [] := by
  have hcases := m.perform_cases i
  rw [h] at hcases
  generalize hended : (after, (none : Option Fault.Cause)) = ended at hcases
  cases hcases with
  | inp value input pop =>
    obtain rfl := congrArg Prod.fst hended
    rw [if_pos rfl]
    exact ⟨(m.input.pop_eq_ok_iff input value).mp pop, (List.append_nil _).symm⟩
  | out =>
    obtain rfl := congrArg Prod.fst hended
    exact ⟨rfl, OutputTray.toList_push m.output m.registers.acc⟩
  | sub a word read =>
    obtain rfl := congrArg Prod.fst hended
    refine ⟨setDifference_input m _, ?_⟩
    rw [outputs, setDifference_output]
    exact (List.append_nil _).symm
  | unread | unwritten | empty => cases congrArg Prod.snd hended
  | _ =>
    obtain rfl := congrArg Prod.fst hended
    exact ⟨rfl, (List.append_nil _).symm⟩

/-- A completed instruction carries the trays over. -/
lemma Completion.carries (c : Completion) : Carries c.before c.traffic c.after := by
  obtain ⟨word, performed, hperform, hafter⟩ :=
    exists_perform_of_step c.running c.carried c.step
  obtain ⟨htaken, hwritten⟩ := trays_of_perform hperform
  have hinput : c.after.input = performed.input := by rw [hafter, complete_input]
  have houtput : c.after.outputs = performed.outputs := by
    rw [hafter, outputs, complete_output, outputs]
  have hacc : c.after.registers.acc = performed.registers.acc := by rw [hafter, complete_registers]
  have hfetched : (c.before.fetched word).outputs = c.before.outputs := by
    rw [outputs, fetched_output, outputs]
  rw [fetched_input, ← hinput, ← hacc] at htaken
  rw [hfetched, fetched_registers, ← houtput] at hwritten
  unfold Completion.traffic
  split
  · next hi =>
    rw [hi, if_pos rfl] at htaken
    rw [hi, if_neg nofun] at hwritten
    exact ⟨(List.append_nil _).trans htaken, hwritten⟩
  · next hi =>
    rw [hi, if_neg nofun] at htaken
    rw [hi, if_pos rfl] at hwritten
    exact ⟨(List.append_nil _).trans (congrArg _ htaken.symm), hwritten⟩
  · next hinp hout =>
    rw [if_neg hinp] at htaken
    rw [if_neg hout] at hwritten
    exact ⟨(List.append_nil _).trans (congrArg _ htaken.symm), hwritten⟩

/-! ### Requests -/

/-- What passes over the trays in all that a chronicle tells of. -/
def chronicledTraffic (past : List Occurrence) : Traffic :=
  past.foldl (fun
    | t, .restart => t
    | t, .completion c => t ++ c.traffic) {}

@[simp] lemma chronicledTraffic_completion (past : List Occurrence) (c : Completion) :
    chronicledTraffic (past ++ [.completion c]) = chronicledTraffic past ++ c.traffic := by
  simp [chronicledTraffic]

/-- What passes over the trays while a machine carries out a request. -/
def requestTraffic (m : Machine) : Request → Traffic
  | .inject inputs =>
    match (m.handle (.inject inputs)).2 with
    | .ok _ => { injected := inputs.filterMap Datum.word? }
    | .error _ => {}
  | .popInput =>
    match (m.handle .popInput).2 with
    | .ok (.number (some value)) => { taken := [value] }
    | _ => {}
  | request => chronicledTraffic (m.occurrences request)

/-- What passes over the trays in the course of a session. -/
def traffic (m : Machine) : List Request → Traffic
  | [] => {}
  | request :: rest => m.requestTraffic request ++ (m.handle request).1.traffic rest

/-- The request neither empties a tray nor puts a value on the output tray by itself. -/
def Request.keepsTrays : Request → Bool
  | .reset | .clearInput | .clearOutput | .pushOutput _ => false
  | _ => true

/-- A chronicle of nothing but completed instructions carries the trays over. -/
lemma isKept_carries (start : Machine) : IsKept (fun request => request.isExecution = true)
    fun past m => Carries start (chronicledTraffic past) m where
  completion past c h := by
    rw [chronicledTraffic_completion]
    exact h.trans c.carries
  failure past m f hstep h := by
    obtain ⟨-, hinput, houtput⟩ := data_of_step_error hstep
    exact h.congr hinput houtput
  note past m e h := h.congr rfl rfl
  restart past m request hexecution hrestart hok h := by
    cases request <;> cases hexecution <;> cases hrestart
  other past m request hexecution hnot hrestart h := by
    rw [hexecution] at hnot
    cases hnot

/-- An injection that is carried out puts its words behind those that wait. -/
lemma carries_inject (m : Machine) (inputs : List Datum) :
    Carries m (m.requestTraffic (.inject inputs)) (m.handle (.inject inputs)).1 := by
  unfold requestTraffic
  simp only [handle]
  cases hinject : m.inject inputs with
  | error f => exact carries_refl m
  | ok after =>
    obtain ⟨input, hinput, rfl⟩ := (m.inject_eq_ok_iff after inputs).mp hinject
    obtain ⟨words, hwords, rfl⟩ := (m.input.inject_eq_ok_iff input inputs).mp hinput
    have hinjected : inputs.filterMap Datum.word? = words := by
      have hsome := congrArg (List.filterMap id) hwords
      rwa [List.filterMap_map, List.filterMap_map, Function.id_comp, Function.id_comp,
        List.filterMap_some] at hsome
    refine ⟨?_, (List.append_nil _).symm⟩
    change m.input.pending ++ inputs.filterMap Datum.word? = m.input.pending ++ words
    rw [hinjected]

/-- A value that is taken by a request is the front one. -/
lemma carries_popInput (m : Machine) :
    Carries m (m.requestTraffic .popInput) (m.handle .popInput).1 := by
  unfold requestTraffic
  simp only [handle]
  cases hpop : m.input.pop with
  | error cause => exact carries_refl m
  | ok popped =>
    obtain ⟨value, input⟩ := popped
    have hpending := (m.input.pop_eq_ok_iff input value).mp hpop
    exact ⟨(List.append_nil _).trans hpending, (List.append_nil _).symm⟩

/-- All other requests that execute nothing and keep the trays leave them alone. -/
lemma trays_handle_of_other (m : Machine) {request : Request}
    (hexecution : request.isExecution = false) (h : request.keepsTrays = true)
    (hinject : ∀ inputs, request ≠ .inject inputs) (hpop : request ≠ .popInput) :
    (m.handle request).1.input = m.input ∧ (m.handle request).1.output = m.output := by
  have hcases := m.handle_cases hexecution
  generalize (m.handle request).1 = after at hcases
  generalize (m.handle request).2.isOk = ok at hcases
  cases hcases with
  | inject inputs => exact absurd rfl (hinject inputs)
  | popInput => exact absurd rfl hpop
  | reset | clearInput | clearOutput | pushOutput => cases h
  | _ => exact ⟨rfl, rfl⟩

/-- Nothing but an execution leaves a completed instruction in the chronicle. -/
lemma chronicledTraffic_of_not_isExecution (m : Machine) {request : Request}
    (hexecution : request.isExecution = false) :
    chronicledTraffic (m.occurrences request) = {} := by
  rw [occurrences_of_not_isExecution hexecution]
  split <;> rfl

/-- Apart from injections and takings, all that passes is told by the chronicle. -/
lemma requestTraffic_of_other (m : Machine) {request : Request}
    (hinject : ∀ inputs, request ≠ .inject inputs) (hpop : request ≠ .popInput) :
    m.requestTraffic request = chronicledTraffic (m.occurrences request) := by
  cases request with
  | inject inputs => exact absurd rfl (hinject inputs)
  | popInput => exact absurd rfl hpop
  | _ => rfl

/-- Every request that keeps the trays carries them over. -/
theorem carries_handle (m : Machine) {request : Request} (h : request.keepsTrays = true) :
    Carries m (m.requestTraffic request) (m.handle request).1 := by
  by_cases hinject : ∃ inputs, request = .inject inputs
  · obtain ⟨inputs, rfl⟩ := hinject
    exact m.carries_inject inputs
  by_cases hpop : request = .popInput
  · subst hpop
    exact m.carries_popInput
  have hinject' : ∀ inputs, request ≠ .inject inputs := fun inputs h => hinject ⟨inputs, h⟩
  rw [m.requestTraffic_of_other hinject' hpop]
  cases hexecution : request.isExecution with
  | true =>
    have hstart : Carries m (chronicledTraffic []) m := carries_refl m
    exact (isKept_carries m).handle hexecution hstart
  | false =>
    obtain ⟨hinput, houtput⟩ := m.trays_handle_of_other hexecution h hinject' hpop
    rw [m.chronicledTraffic_of_not_isExecution hexecution]
    exact (carries_refl m).congr hinput houtput

/-! ### Sessions -/

/-- Every session that keeps the trays carries them over. -/
theorem carries_session (m : Machine) {requests : List Request}
    (h : ∀ request ∈ requests, request.keepsTrays = true) :
    Carries m (m.traffic requests) (m.session requests) := by
  induction requests generalizing m with
  | nil => exact carries_refl m
  | cons request rest ih =>
    have hfirst := m.carries_handle (h request List.mem_cons_self)
    have hrest := ih (m.handle request).1 fun r hr => h r (List.mem_cons_of_mem request hr)
    exact hfirst.trans hrest

/-- A session can be held in two parts. -/
lemma session_append (m : Machine) (earlier later : List Request) :
    m.session (earlier ++ later) = (m.session earlier).session later := by
  induction earlier generalizing m with
  | nil => rfl
  | cons request rest ih => exact ih (m.handle request).1

/-- The outputs of a session that keeps the trays only grow. -/
lemma outputs_prefix_session (m : Machine) (earlier : List Request) {later : List Request}
    (h : ∀ request ∈ later, request.keepsTrays = true) :
    (m.session earlier).outputs <+: (m.session (earlier ++ later)).outputs := by
  rw [session_append]
  exact ⟨_, (carries_session (m.session earlier) h).output.symm⟩

/-! ### Outputs in the middle of a run -/

/-- A step writes behind what was written before. -/
lemma outputs_prefix_step (m : Machine) : m.outputs <+: m.step.1.outputs := by
  let P (now : Machine) : Prop := m.outputs <+: now.outputs
  have hcongr : ∀ now after : Machine, after.output = now.output → P now → P after := by
    intro now after houtput h
    change m.outputs <+: after.output.values.toList
    rw [houtput]
    exact h
  have hperform : ∀ now i, P now → P (now.perform i).1 := by
    intro now i h
    have hcases := now.perform_cases i
    generalize now.perform i = ended at hcases
    cases hcases with
    | out =>
      have hpush := OutputTray.toList_push now.output now.registers.acc
      exact h.trans ⟨[now.registers.acc], hpush.symm⟩
    | sub a word read => exact hcongr now _ (setDifference_output now _) h
    | _ => exact h
  exact step_induction (fun now e => hcongr now _ (now.tell_output e)) (fun _ _ h => h)
    (fun _ h => h) (fun now i _ => hperform now i) (fun _ h => h) (List.prefix_refl m.outputs)

section

variable {m now : Machine} {k budget : Nat}

/-- So do completed instructions. -/
lemma Completes.outputs_prefix (h : Completes m k now) : m.outputs <+: now.outputs := by
  let P (now : Machine) : Prop := m.outputs <+: now.outputs
  have hstep : ∀ now, P now → P now.step.1 := fun now hnow => hnow.trans now.outputs_prefix_step
  exact h.keeps hstep (List.prefix_refl m.outputs)

/-- So does a run. -/
lemma outputs_prefix_runFor (m : Machine) (budget : Nat) :
    m.outputs <+: (m.runFor budget).1.outputs := by
  let P (now : Machine) : Prop := m.outputs <+: now.outputs
  have hstep : ∀ now, P now → P now.step.1 := fun now hnow => hnow.trans now.outputs_prefix_step
  exact runFor_induction hstep (fun _ _ h => h) budget (List.prefix_refl m.outputs)

/-- What is written at a moment of a run is a beginning of what is written at its end. -/
theorem Completes.outputs_prefix_run (h : Completes m k now) (hle : k ≤ budget) :
    now.outputs <+: (m.runFor budget).1.outputs := by
  obtain ⟨rest, rfl⟩ := Nat.exists_eq_add_of_le hle
  obtain ⟨hsame, -⟩ := h.runFor_add rest
  rw [← hsame.outputs]
  exact now.outputs_prefix_runFor rest

end

/-! ### Want of an input -/

/-- An instruction that fails for want of an input is an input, and the tray is empty. -/
lemma eq_inp_of_perform_underflow {m after : Machine} {i : Instruction} {cause : Fault.Cause}
    (h : m.perform i = (after, some cause)) (hkind : cause.kind = .inputTrayUnderflow) :
    i = .inp ∧ m.input.pending = [] := by
  have hcases := m.perform_cases i
  rw [h] at hcases
  cases hcases with
  | unread i a cause reads read =>
    obtain ⟨-, rfl⟩ := (m.memory.read_eq_error_iff a cause).mp read
    cases hkind
  | unwritten a calls cause write =>
    exact absurd (hkind ▸ Memory.kind_of_write_error write) (by decide)
  | empty cause pop => exact ⟨rfl, ((m.input.pop_eq_error_iff cause).mp pop).1⟩

/-- The word of an input is 901. -/
lemma decode?_eq_inp_iff (word : Int) : Instruction.decode? word = some .inp ↔ word = 901 := by
  constructor
  · intro h
    rcases Instruction.encode_of_decode? h with ⟨hhlt, -⟩ | ⟨-, hword⟩
    · cases hhlt
    · exact hword.symm
  · rintro rfl
    rfl

section

variable {m : Machine}

/-- A running machine that fetches the word of an input fails if nothing is pending. -/
lemma step_inp_of_nil (running : m.registers.halted = false)
    (read : m.memory.read m.registers.pc = .ok 901) (hpending : m.input.pending = []) :
    m.step = (m.fetched 901).fail m.registers.pc (m.registers.cycles + 1) .trayEmpty := by
  have hpop : (m.fetched 901).input.pop = .error .trayEmpty := by
    rw [fetched_input, InputTray.pop_eq_error_iff]
    exact ⟨hpending, rfl⟩
  rw [step_of_decode? running read rfl]
  simp only [perform, hpop]

/-- With a value pending it takes that value. -/
lemma step_inp_of_cons (running : m.registers.halted = false)
    (read : m.memory.read m.registers.pc = .ok 901) {value : Int} {rest : List Int}
    (hpending : m.input.pending = value :: rest) :
    m.step.2 = .ok none ∧ m.step.1.registers.acc = value ∧ m.step.1.input.pending = rest := by
  have hpop : (m.fetched 901).input.pop = .ok (value, ⟨rest⟩) := by
    rw [fetched_input, InputTray.pop_eq_ok_iff]
    exact hpending
  rw [step_of_decode? running read rfl]
  simp only [perform, hpop]
  refine ⟨?_, ?_, ?_⟩
  · rw [complete_stop]
    simp [setAcc, running]
  · rw [complete_registers]
    rfl
  · rw [complete_input]
    rfl

/-- A step fails for want of an input exactly if the machine has not halted, fetches the word of an
input and has nothing pending. -/
theorem step_underflow_iff (m : Machine) :
    (∃ f, m.step.2 = .error f ∧ f.kind = .inputTrayUnderflow) ↔
      m.registers.halted = false ∧ m.memory.read m.registers.pc = .ok 901 ∧
        m.input.pending = [] := by
  constructor
  · rintro ⟨f, hstep, hkind⟩
    have hcases := m.step_cases
    generalize m.step = ended at hstep hcases
    cases hcases with
    | halted => cases hstep
    | unfetched cause running read =>
      obtain ⟨-, rfl⟩ := (m.memory.read_eq_error_iff _ cause).mp read
      obtain rfl := Except.error.inj hstep
      rw [Fault.kind_ofCause] at hkind
      cases hkind
    | undecoded word =>
      obtain rfl := Except.error.inj hstep
      rw [Fault.kind_ofCause] at hkind
      cases hkind
    | failed word i after cause running read decode perform =>
      obtain rfl := Except.error.inj hstep
      rw [Fault.kind_ofCause] at hkind
      obtain ⟨rfl, hpending⟩ := eq_inp_of_perform_underflow perform hkind
      rw [fetched_input] at hpending
      obtain rfl := (decode?_eq_inp_iff word).mp decode
      exact ⟨running, read, hpending⟩
    | completed word i after =>
      rw [complete_stop] at hstep
      cases hstep
  · rintro ⟨running, read, hpending⟩
    rw [step_inp_of_nil running read hpending]
    exact ⟨_, rfl, rfl⟩

end

/-- No value is lost on the trays, none is doubled, and none changes its place. In a session that
does not reset them, the values that waited on the input tray, and behind them all that were
injected with success, are the values taken by completed inputs and by requests, and behind them
those that still wait; and the output tray holds what it held before, and behind it the accumulator
at every completed output. So what is written at one moment is a beginning of what is written at
every later one, also within a run. A step fails for want of an input exactly if a machine that has
not halted fetches the word of an input and nothing is pending. Where a value is pending the input
takes the front one; and a step that fails, takes, writes and puts into the accumulator nothing. -/
theorem session_trays :
    (∀ (m : Machine) (requests : List Request),
      (∀ request ∈ requests, request.keepsTrays = true) →
      m.input.pending ++ (m.traffic requests).injected =
          (m.traffic requests).taken ++ (m.session requests).input.pending ∧
        (m.session requests).outputs = m.outputs ++ (m.traffic requests).written) ∧
    (∀ (m : Machine) (earlier later : List Request),
      (∀ request ∈ later, request.keepsTrays = true) →
      (m.session earlier).outputs <+: (m.session (earlier ++ later)).outputs) ∧
    (∀ (m now : Machine) (k budget : Nat), Completes m k now → k ≤ budget →
      m.outputs <+: now.outputs ∧ now.outputs <+: (m.run budget).1.outputs) ∧
    ∀ m : Machine,
      ((∃ f, m.step.2 = .error f ∧ f.kind = .inputTrayUnderflow) ↔
        m.registers.halted = false ∧ m.memory.read m.registers.pc = .ok 901 ∧
          m.input.pending = []) ∧
      (∀ value rest, m.registers.halted = false → m.memory.read m.registers.pc = .ok 901 →
        m.input.pending = value :: rest →
        m.step.2 = .ok none ∧ m.step.1.registers.acc = value ∧ m.step.1.input.pending = rest) ∧
      (∀ f, m.step.2 = .error f → m.step.1.registers.acc = m.registers.acc ∧
        m.step.1.input = m.input ∧ m.step.1.output = m.output) := by
  refine ⟨fun m requests h => ?_, fun m earlier later h => m.outputs_prefix_session earlier h,
    fun m now k budget hway hle => ?_, fun m => ⟨m.step_underflow_iff, ?_, fun f hf => ?_⟩⟩
  · have hcarries := m.carries_session h
    exact ⟨hcarries.input, hcarries.output⟩
  · rw [run_ofNat]
    exact ⟨hway.outputs_prefix, hway.outputs_prefix_run hle⟩
  · exact fun value rest running read hpending => step_inp_of_cons running read hpending
  · obtain ⟨-, hinput, houtput⟩ := data_of_step_error hf
    refine ⟨?_, hinput, houtput⟩
    rw [registers_eq_of_step_error hf]

/-- A machine that echoes its inputs, with nothing waiting. -/
def echoing : Machine :=
  session {} [.load [.integer 901, .integer 902, .integer 600]]

/-- The same with one value waiting. -/
def echoingFour : Machine :=
  echoing.session [.inject [.integer 4]]

/-- An injection that is refused, a run that is out of budget, and a run that fails for want of a
third input. -/
def twoRuns : List Request :=
  [.inject [.integer 5, .absent], .run 4, .inject [.integer 7], .run 9]

/-- The trays of these machines in that session. -/
theorem session_trays_echo :
    [4, 7] = (echoingFour.traffic twoRuns).taken ++ (echoingFour.session twoRuns).input.pending ∧
      echoingFour.outputs <+: (echoingFour.session twoRuns).outputs ∧
      (echoingFour.outputs <+: echoingFour.step.1.outputs ∧
        echoingFour.step.1.outputs <+: (echoingFour.run 4).1.outputs) ∧
      (∃ f, echoing.step.2 = .error f ∧ f.kind = .inputTrayUnderflow) ∧
      echoingFour.step.1.registers.acc = 4 ∧ echoing.step.1.registers.acc = 0 := by
  obtain ⟨hsession, hlater, hrun, hstep⟩ := session_trays
  have hkept : ∀ request ∈ twoRuns, request.keepsTrays = true := by decide
  have hway : Completes echoingFour 1 echoingFour.step.1 :=
    .cons none (by decide) rfl (.none echoingFour.step.1)
  have hfailed : echoing.step.2 =
      .error { cause := .trayEmpty, address := some 0, cycle := some 1 } := by decide
  have hfront : echoingFour.input.pending = [4] := by decide
  refine ⟨?_, hlater echoingFour [] twoRuns hkept,
    hrun echoingFour echoingFour.step.1 1 4 hway (by decide), ?_, ?_, ?_⟩
  · have h := (hsession echoingFour twoRuns hkept).1
    rw [hfront] at h
    exact h
  · exact (hstep echoing).1.mpr ⟨by decide, by decide, by decide⟩
  · exact ((hstep echoingFour).2.1 4 [] (by decide) (by decide) hfront).2.1
  · exact ((hstep echoing).2.2 _ hfailed).1

end Machine

end LittleMan
