import LittleMan.Proofs.Machine.Lockstep

/-!
# Records of the past

A machine writes its records and never reads them: the trace, the calls of watchers and the events.
So a machine with more records behind it does what it would do without them, and its new records are
the same. `Machine.behind` puts records in front of those of a machine; a step does not see it
(`isUnseen_behind`) and goes through it (`step_behind`).

For the record of events this gives a congruence: machines that differ at most in their events
(`SameButEvents`) run in lockstep (`isLockstep_sameButEvents`), so they make the same runs
(`SameButEvents.runFor`).
-/

namespace LittleMan

namespace Machine

/-- The records of a machine. -/
structure Past where
  trace : Array TraceEntry := #[]
  sightings : Array Sighting := #[]
  events : Array Event := #[]

/-- The machine with more records in front of its own. -/
def behind (m : Machine) (p : Past) : Machine :=
  { m with
    trace := p.trace ++ m.trace
    sightings := p.sightings ++ m.sightings
    events := p.events ++ m.events }

section

variable (m : Machine) (p : Past)

/-! ### Steps -/

/-- A list can be put behind an array before or after another array is put in front. -/
lemma append_append_list {α : Type} (xs ys : Array α) (l : List α) :
    xs ++ ys ++ l = xs ++ (ys ++ l) :=
  Array.ext' (by simp)

lemma tell_behind (e : TraceEntry) : (m.behind p).tell e = (m.tell e).behind p := by
  unfold tell
  cases h : m.tracing with
  | false => simp [behind, h]
  | true => simp [behind, h, Array.push_append]

/-- A step does not see more records in the past. -/
lemma isUnseen_behind (p : Past) : IsUnseen (behind · p) where
  registers m := rfl
  memory m := rfl
  withRegisters m registers := rfl
  withStored m memory calls := by simp [withStored, behind, append_append_list]
  withOutput m value := rfl
  tell m e := m.tell_behind p e
  note m e := by simp [note, behind, Array.push_append]

/-- Nor does it when it takes an input. -/
lemma takesThrough_behind : TakesThrough (behind · p) m :=
  (isUnseen_behind p).isUnread.performsThrough_inp rfl fun _ => rfl

/-- A step does the same with more records in the past. -/
theorem step_behind : (m.behind p).step = (m.step.1.behind p, m.step.2) :=
  (isUnseen_behind p).step fun word _ _ _ => takesThrough_behind (m.fetched word) p

end

/-! ### Events -/

/-- The machines differ at most in their events. -/
def SameButEvents (m m' : Machine) : Prop :=
  { m with events := m'.events } = m'

section

variable {m m' m'' : Machine}

lemma SameButEvents.refl (m : Machine) : SameButEvents m m := rfl

lemma SameButEvents.registers (h : SameButEvents m m') : m.registers = m'.registers := by
  unfold SameButEvents at h
  rw [← h]

lemma SameButEvents.outputs (h : SameButEvents m m') : m.outputs = m'.outputs := by
  unfold SameButEvents at h
  rw [← h]
  rfl

lemma SameButEvents.trans (h : SameButEvents m m') (h' : SameButEvents m' m'') :
    SameButEvents m m'' := by
  unfold SameButEvents at h h' ⊢
  rw [← h', ← h]

/-- One more event makes no other difference. -/
lemma sameButEvents_note (m : Machine) (e : Event) : SameButEvents (m.note e) m := rfl

/-- So it does for both machines. -/
lemma SameButEvents.note (h : SameButEvents m m') (e e' : Event) :
    SameButEvents (m.note e) (m'.note e') := by
  unfold SameButEvents at h
  rw [← h]
  rfl

/-- Machines that differ at most in their events have a common past but for the events. -/
lemma SameButEvents.exists_behind (h : SameButEvents m m') :
    ∃ (base : Machine) (events events' : Array Event),
      m = base.behind { events } ∧ m' = base.behind { events := events' } := by
  refine ⟨{ m with events := #[] }, m.events, m'.events, ?_, ?_⟩
  · simp [behind]
  · rw [← h]
    simp [behind]

/-- Machines that differ at most in their events make the same step. -/
theorem SameButEvents.step (h : SameButEvents m m') :
    SameButEvents m.step.1 m'.step.1 ∧ m.step.2 = m'.step.2 := by
  obtain ⟨base, events, events', rfl, rfl⟩ := h.exists_behind
  rw [step_behind, step_behind]
  exact ⟨rfl, rfl⟩

/-- Machines that differ at most in their events run in lockstep. -/
lemma isLockstep_sameButEvents : IsLockstep (fun _ => False) SameButEvents where
  registers _ _ h := h.registers
  note _ _ e h := h.note e e
  step _ _ h _ := h.step

/-- Machines that differ at most in their events make the same runs. -/
theorem SameButEvents.runFor (h : SameButEvents m m') (budget : Nat) :
    SameButEvents (m.runFor budget).1 (m'.runFor budget).1 ∧
      (m.runFor budget).2 = (m'.runFor budget).2 :=
  isLockstep_sameButEvents.runFor h budget fun _ _ => id

end

end Machine

end LittleMan
