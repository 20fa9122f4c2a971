import LittleMan.Proofs.Machine.Execution
import LittleMan.Proofs.Machine.Tracing

/-!
# The story of a run

A run with a trace leaves three records: the events, of which the log tells, the trace, and the
values written. They are made in different places: an instruction is shown when its word is fetched,
its value is written when it is executed, a halt is noted behind the instruction and a fault in its
place. What they have in common is the story of the run (`Story`): the instructions that were begun,
each with what it wrote, and how the run ended. Each record is a function of it, so none of them can
get ahead of another.

A step adds to the records what one instruction makes of them (`adds_of_step_ok`,
`adds_of_step_error`), and a way of completed instructions what its instructions do
(`Completes.adds`). With the end of the run this makes the story of it (`exists_story`), provided
that nobody watches the machine and its cycles can be counted: only faults of its own kinds are
told.
-/

namespace LittleMan

/-- What decodes is a word. -/
lemma Instruction.isWord_of_decode? {word : Int} {i : Instruction} (h : decode? word = some i) :
    IsWord word := by
  unfold decode? at h
  unfold IsWord
  dsimp only at h
  split at h <;> first | omega | cases h

namespace Machine

/-! ### Stories -/

/-- An instruction that was begun: the registers before it, its word, and the values it wrote. -/
structure Deed where
  registers : Registers
  word : Int
  written : List Int
  isAddress : IsAddress registers.pc
  isWord : IsWord word

/-- The events of an instruction. -/
def Deed.events (d : Deed) : List Event :=
  .fetched d.registers.pc d.word :: d.written.map Event.wrote

/-- The entry of an instruction in the trace. -/
def Deed.entry (d : Deed) : TraceEntry :=
  .instruction d.registers d.word

/-- How a run ended. -/
inductive Ending where
  | halted
  /-- The budget was used up; `pc` is where the run would go on. -/
  | exhausted (pc : Int)
  | failed (f : Fault)

/-- The story of a run: the instructions that were begun, in order, and how the run ended. -/
structure Story where
  deeds : List Deed
  ending : Ending

namespace Story

variable (s : Story)

/-- The last event of a run that began after `start` cycles. -/
def lastEvent (start : Int) : Event :=
  match s.ending with
  | .halted => .halted (start + s.deeds.length)
  | .exhausted pc => .exhausted s.deeds.length pc
  | .failed f => .stopped f

/-- The events of a run that began after `start` cycles. -/
def events (start : Int) : List Event :=
  s.deeds.flatMap Deed.events ++ [s.lastEvent start]

/-- The fault with which the run ended, if it failed. -/
def fault? : Option Fault :=
  match s.ending with
  | .halted | .exhausted _ => none
  | .failed f => some f

/-- The entries of the trace. -/
def entries : List TraceEntry :=
  s.deeds.map Deed.entry ++ s.fault?.toList.map .fault

/-- The values written. -/
def written : List Int :=
  s.deeds.flatMap Deed.written

/-- What came of the run. -/
def outcome : Except Fault Run :=
  match s.ending with
  | .halted => .ok ⟨.halt, s.deeds.length⟩
  | .exhausted _ => .ok ⟨.timeout, s.deeds.length⟩
  | .failed f => .error f

/-- The fault is what came of the run. -/
lemma outcome_of_fault? {s : Story} {f : Fault} (h : s.fault? = some f) :
    s.outcome = .error f := by
  unfold fault? at h
  unfold outcome
  split at h
  · cases h
  · cases h
  · exact congrArg Except.error (Option.some.inj h)

end Story

/-! ### What is added to the records -/

/-- On the way from one machine to another a trace is kept, and this is added to the records. -/
structure Adds (m after : Machine) (events : List Event) (entries : List TraceEntry)
    (written : List Int) : Prop where
  tracing : after.tracing = true
  events_eq : after.events.toList = m.events.toList ++ events
  trace_eq : after.trace.toList = m.trace.toList ++ entries
  outputs_eq : after.outputs = m.outputs ++ written

section

variable {m next after : Machine} {es es' : List Event} {ts ts' : List TraceEntry}
  {vs vs' : List Int}

/-- Nothing is added if the records are the same. -/
lemma adds_nothing (h : after.tracing = true) (hevents : after.events = m.events)
    (htrace : after.trace = m.trace) (houtput : after.output = m.output) :
    Adds m after [] [] [] where
  tracing := h
  events_eq := by rw [hevents, List.append_nil]
  trace_eq := by rw [htrace, List.append_nil]
  outputs_eq := by
    unfold outputs
    rw [houtput, List.append_nil]

/-- What is added on the second part of a way comes behind what is added on the first. -/
lemma Adds.trans (h : Adds m next es ts vs) (h' : Adds next after es' ts' vs') :
    Adds m after (es ++ es') (ts ++ ts') (vs ++ vs') where
  tracing := h'.tracing
  events_eq := by rw [h'.events_eq, h.events_eq, List.append_assoc]
  trace_eq := by rw [h'.trace_eq, h.trace_eq, List.append_assoc]
  outputs_eq := by rw [h'.outputs_eq, h.outputs_eq, List.append_assoc]

lemma adds_note (h : m.tracing = true) (e : Event) : Adds m (m.note e) [e] [] [] :=
  ⟨h, Array.toList_push, (List.append_nil _).symm, (List.append_nil _).symm⟩

lemma adds_tell (h : m.tracing = true) (e : TraceEntry) : Adds m (m.tell e) [] [e] [] := by
  unfold tell
  rw [if_pos h]
  exact ⟨h, (List.append_nil _).symm, Array.toList_push, (List.append_nil _).symm⟩

/-- A machine about to execute the instruction of a word has recorded that. -/
lemma adds_fetched (h : m.tracing = true) (word : Int) :
    Adds m (m.fetched word) [.fetched m.registers.pc word] [.instruction m.registers word] [] := by
  have hadvanced : Adds m m.advanced [] [] [] := adds_nothing h rfl rfl rfl
  have htell := hadvanced.trans (adds_tell hadvanced.tracing (.instruction m.registers word))
  exact htell.trans (adds_note htell.tracing _)

/-- The values that an instruction writes. -/
def writtenBy (m : Machine) (i : Instruction) : List Int :=
  if i = .out then [m.registers.acc] else []

/-- An instruction adds what it writes, and the events of that. -/
lemma adds_perform (h : m.tracing = true) (i : Instruction) :
    Adds m (m.perform i).1 ((m.writtenBy i).map Event.wrote) [] (m.writtenBy i) := by
  have hcases := m.perform_cases i
  generalize m.perform i = ended at hcases
  cases hcases with
  | out =>
    unfold writtenBy
    rw [if_pos rfl]
    exact ⟨h, Array.toList_push, (List.append_nil _).symm, Array.toList_push⟩
  | sub a word read =>
    unfold setDifference
    split <;> exact adds_nothing h rfl rfl rfl
  | unread i a cause reads read =>
    have hi : i ≠ .out := by
      rintro rfl
      cases reads
    unfold writtenBy
    rw [if_neg hi]
    exact adds_nothing h rfl rfl rfl
  | _ => exact adds_nothing h rfl rfl rfl

/-- The event of a machine that has halted. -/
def haltEvents (m : Machine) : List Event :=
  if m.registers.halted then [.halted m.registers.cycles] else []

lemma haltEvents_of_halted (halted : m.registers.halted = true) :
    m.haltEvents = [.halted m.registers.cycles] :=
  if_pos halted

lemma haltEvents_of_running (running : m.registers.halted = false) : m.haltEvents = [] :=
  if_neg (by simp [running])

/-- A completed instruction adds the event of a halt, if it made the machine halt. -/
lemma adds_complete (h : m.tracing = true) (cycle : Int) :
    Adds m (m.complete cycle).1 (m.complete cycle).1.haltEvents [] [] := by
  unfold haltEvents
  rw [complete_registers]
  have hcounted : Adds m { m with registers := { m.registers with cycles := cycle } } [] [] [] :=
    adds_nothing h rfl rfl rfl
  unfold complete
  dsimp only
  split
  · exact hcounted.trans (adds_note hcounted.tracing _)
  · exact hcounted

/-- An instruction that fails adds its fault, if it is one of the machine's own kinds. -/
lemma adds_fail (h : m.tracing = true) {address cycle : Int} {cause : Fault.Cause} {f : Fault}
    (hown : f.isOwn = true) (hfail : m.fail address cycle cause = (after, .error f)) :
    Adds m after [.stopped f] [.fault f] [] := by
  obtain ⟨rfl, hf⟩ := Prod.mk.inj hfail
  obtain rfl := Except.error.inj hf
  have htell := adds_tell h (.fault (Fault.ofCause cause address cycle))
  unfold tellFault
  rw [if_pos hown]
  exact htell.trans (adds_note htell.tracing _)

/-! ### Steps -/

/-- An instruction that is begun. -/
def deed (m : Machine) (word : Int) (i : Instruction)
    (read : m.memory.read m.registers.pc = .ok word) (decode : Instruction.decode? word = some i) :
    Deed where
  registers := m.registers
  word := word
  written := (m.fetched word).writtenBy i
  isAddress := ((m.memory.read_eq_ok_iff _ _).mp read).1
  isWord := Instruction.isWord_of_decode? decode

/-- Up to its end, an instruction adds what the story tells of it. -/
lemma adds_performed (h : m.tracing = true) {word : Int} {i : Instruction}
    {cause : Option Fault.Cause} (read : m.memory.read m.registers.pc = .ok word)
    (decode : Instruction.decode? word = some i)
    (perform : (m.fetched word).perform i = (after, cause)) :
    Adds m after (m.deed word i read decode).events [(m.deed word i read decode).entry]
      (m.deed word i read decode).written := by
  have hfetched := adds_fetched h word
  have hperform := adds_perform hfetched.tracing i
  rw [perform] at hperform
  exact hfetched.trans hperform

/-- A completed instruction adds itself, and the event of a halt if it is the last one. -/
theorem adds_of_step_ok (h : m.tracing = true) (running : m.registers.halted = false)
    {stop : Option Stop} (step : m.step = (next, .ok stop)) :
    ∃ d : Deed, Adds m next (d.events ++ next.haltEvents) [d.entry] d.written := by
  have hcases := m.step_cases
  rw [step] at hcases
  generalize hended : (next, Except.ok stop) = ended at hcases
  cases hcases with
  | halted halted =>
    rw [running] at halted
    cases halted
  | unfetched => cases (Prod.mk.inj hended).2
  | undecoded => cases (Prod.mk.inj hended).2
  | failed => cases (Prod.mk.inj hended).2
  | completed word i after running read decode perform =>
    obtain rfl : next = (after.complete (m.registers.cycles + 1)).1 := congrArg Prod.fst hended
    have hperformed := adds_performed h read decode perform
    have hadds := hperformed.trans
      (adds_complete hperformed.tracing (m.registers.cycles + 1))
    rw [List.append_nil, List.append_nil] at hadds
    exact ⟨_, hadds⟩

/-- A failing step adds a fault of the machine's own kinds, and in front of it the instruction if it
could be read. -/
theorem adds_of_step_error (h : m.tracing = true) {f : Fault} (hown : f.isOwn = true)
    (step : m.step = (after, .error f)) :
    ∃ begun : Option Deed, Adds m after (begun.toList.flatMap Deed.events ++ [.stopped f])
      (begun.toList.map Deed.entry ++ [.fault f]) (begun.toList.flatMap Deed.written) := by
  have hcases := m.step_cases
  rw [step] at hcases
  generalize hended : (after, Except.error f) = ended at hcases
  cases hcases with
  | halted => cases (Prod.mk.inj hended).2
  | unfetched => exact ⟨none, adds_fail h hown hended.symm⟩
  | undecoded =>
    have hadvanced : Adds m m.advanced [] [] [] := adds_nothing h rfl rfl rfl
    exact ⟨none, hadvanced.trans (adds_fail hadvanced.tracing hown hended.symm)⟩
  | failed word i performed cause running read decode perform =>
    have hperformed := adds_performed h read decode perform
    have hadds := hperformed.trans (adds_fail hperformed.tracing hown hended.symm)
    rw [List.append_nil] at hadds
    refine ⟨some (m.deed word i read decode), ?_⟩
    rw [Option.toList_some, List.flatMap_singleton, List.flatMap_singleton, List.map_singleton]
    exact hadds
  | completed word i performed =>
    have hstop := congrArg Prod.snd hended
    rw [complete_stop] at hstop
    cases hstop

/-! ### Runs -/

/-- Completed instructions add themselves, one by one, and the event of a halt if there is one. -/
theorem Completes.adds {k : Nat} (way : Completes m k after) (h : m.tracing = true)
    (running : m.registers.halted = false) :
    ∃ deeds : List Deed, deeds.length = k ∧
      Adds m after (deeds.flatMap Deed.events ++ after.haltEvents) (deeds.map Deed.entry)
        (deeds.flatMap Deed.written) := by
  induction way with
  | none m =>
    refine ⟨[], rfl, ?_⟩
    rw [haltEvents_of_running running]
    exact adds_nothing h rfl rfl rfl
  | @cons m next after k stop _ step rest ih =>
    obtain ⟨d, hstep⟩ := adds_of_step_ok h running step
    cases hhalted : next.registers.halted with
    | true =>
      -- behind a halt no instruction is completed
      cases rest with
      | none =>
        refine ⟨[d], rfl, ?_⟩
        rw [List.flatMap_singleton, List.flatMap_singleton, List.map_singleton]
        exact hstep
      | cons stop' running' =>
        rw [hhalted] at running'
        cases running'
    | false =>
      rw [haltEvents_of_running hhalted, List.append_nil] at hstep
      obtain ⟨deeds, hlength, hrest⟩ := ih hstep.tracing hhalted
      refine ⟨d :: deeds, congrArg Nat.succ hlength, ?_⟩
      rw [List.flatMap_cons, List.flatMap_cons, List.map_cons, List.append_assoc]
      exact hstep.trans hrest

/-- A run with a trace has a story, where nobody watches and the cycles can be counted: it tells
what came of the run, a fault being one of the machine's own, and what was added to each of the
three records. -/
theorem exists_story (h : m.tracing = true) (running : m.registers.halted = false)
    (hoperable : m.Operable) (hunwatched : m.memory.watchers = []) {budget : Nat}
    (hstart : Text.isWritable m.registers.cycles = true)
    (hend : Text.isWritable (m.registers.cycles + budget) = true) :
    ∃ s : Story, (m.runFor budget).2 = s.outcome ∧ (∀ f ∈ s.fault?, f.isOwn = true) ∧
      Adds m (m.runFor budget).1 (s.events m.registers.cycles) s.entries s.written := by
  have hcases := m.run_cases budget
  generalize m.runFor budget = ended at hcases
  cases hcases with
  | halt k after le completes halted =>
    obtain ⟨deeds, rfl, hadds⟩ := completes.adds h running
    rw [haltEvents_of_halted halted, completes.cycles] at hadds
    refine ⟨⟨deeds, .halted⟩, rfl, nofun, ?_⟩
    unfold Story.entries Story.fault?
    rw [Option.toList_none, List.map_nil, List.append_nil]
    exact hadds
  | timeout after completes running' =>
    obtain ⟨deeds, rfl, hadds⟩ := completes.adds h running
    rw [haltEvents_of_running running', List.append_nil] at hadds
    have hnote := hadds.trans
      (adds_note hadds.tracing (.exhausted deeds.length after.registers.pc))
    rw [List.append_nil (deeds.flatMap Deed.written)] at hnote
    exact ⟨⟨deeds, .exhausted after.registers.pc⟩, rfl, nofun, hnote⟩
  | fault k before failed f lt completes step =>
    obtain ⟨deeds, -, hadds⟩ := completes.adds h running
    rw [haltEvents_of_running (running_of_step_error step), List.append_nil] at hadds
    have hown : f.isOwn = true :=
      hoperable.isOwn_of_completes hunwatched hstart hend lt completes (congrArg Prod.snd step)
    obtain ⟨begun, hfailed⟩ := adds_of_step_error hadds.tracing hown step
    refine ⟨⟨deeds ++ begun.toList, .failed f⟩, rfl, fun f' hf' => ?_, ?_⟩
    · obtain rfl := Option.some.inj hf'
      exact hown
    unfold Story.events Story.entries Story.written Story.lastEvent Story.fault?
    rw [List.flatMap_append, List.flatMap_append, List.map_append, List.append_assoc,
      List.append_assoc]
    exact hadds.trans hfailed

end

end Machine

end LittleMan
