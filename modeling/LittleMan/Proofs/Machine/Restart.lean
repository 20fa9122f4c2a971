import LittleMan.Proofs.Machine.Records
import LittleMan.Proofs.Machine.Surplus
import LittleMan.Proofs.Machine.Tracing
import LittleMan.Proofs.Machine.Watching

/-!
# Restarting a machine

A machine that has been used is as good as a new one once it is reset and loaded. A reset keeps the
memory and loading keeps the trays, so neither does it alone; both together, in either order, leave
of the past only the watchers, what the watchers and the log were told, and the switch of the trace
(`session_restart`).

The switch makes no difference but in the trace, and events make none at all. Watchers make none as
long as they do not object: the machine without watchers (`unwatched`) is made by a change that
reading does not see, and a store goes through it (`performsThrough_unwatched_sto`). So machines
that differ only in their watchers, in calls and in events (`SameButWatch`) run in lockstep
(`isLockstep_sameButWatch`). All of it is put together in `restart_forgets`.
-/

namespace LittleMan

/-! ### Watchers that do not object -/

namespace Memory

/-- No watcher of a mailbox ever objects to a write. -/
def IsVetoFree (m : Memory) : Prop :=
  ∀ registration ∈ m.watchers, ∀ old new,
    registration.2.objection? registration.1 old new = none

/-- The memory without watchers. -/
def unwatched (m : Memory) : Memory :=
  { m with watchers := [] }

/-- If no watcher objects, a write comes to the same without watchers, but that nobody is called. -/
lemma write_unwatched {m : Memory} (h : m.IsVetoFree) (a value : Int) :
    m.unwatched.write a value = ([], (m.write a value).2.map unwatched) := by
  have hfind : objection? a (m.cells.getD a.toNat 0) value (m.watchersOf a) = none := by
    rw [objection?, List.findSome?_eq_none_iff]
    intro w hw
    obtain ⟨registration, hmem, rfl⟩ := List.mem_map.mp hw
    obtain ⟨hregistered, hat⟩ := List.mem_filter.mp hmem
    obtain rfl := of_decide_eq_true hat
    exact h registration hregistered _ _
  by_cases hboth : IsAddress a ∧ IsWord value
  · rw [write_of_watchers_eq_nil rfl hboth.1 hboth.2, m.write_eq hboth.1 hboth.2, hfind]
    rfl
  · -- what is refused before a watcher is called does not depend on the watchers
    unfold write
    by_cases ha : IsAddress a
    · have hvalue : ¬ IsWord value := fun hvalue => hboth ⟨ha, hvalue⟩
      rw [if_pos ha, if_neg hvalue, if_pos ha, if_neg hvalue]
      rfl
    · rw [if_neg ha, if_neg ha]
      rfl

end Memory

namespace Machine

/-- Every registration comes from a request. -/
lemma mem_watchers_handle (m : Machine) (request : Request) {registration : Int × Watcher}
    (h : registration ∈ (m.handle request).1.memory.watchers) :
    registration ∈ m.memory.watchers ∨ request = .watch registration.1 registration.2 := by
  cases request with
  | watch a w =>
    unfold handle at h
    dsimp only at h
    cases hwatch : m.memory.watch a w with
    | error cause =>
      rw [hwatch] at h
      exact Or.inl h
    | ok memory =>
      obtain ⟨-, rfl⟩ := (m.memory.watch_eq_ok_iff memory a w).mp hwatch
      rw [hwatch] at h
      rcases List.mem_append.mp h with hold | hnew
      · exact Or.inl hold
      · rw [List.mem_singleton.mp hnew]
        exact Or.inr rfl
  | unwatch a name => exact Or.inl (List.mem_filter.mp h).1
  | _ =>
    rw [m.handle_watchers (by intros; simp) (by intros; simp)] at h
    exact Or.inl h

/-- A session that registers no watcher who objects leaves a machine without objections. -/
lemma isVetoFree_session {requests : List Request}
    (h : ∀ a w, Request.watch a w ∈ requests → ∀ old new, w.objection? a old new = none) :
    (session {} requests).memory.IsVetoFree := by
  have hhandle : ∀ (m : Machine) (request : Request), request ∈ requests →
      m.memory.IsVetoFree → (m.handle request).1.memory.IsVetoFree := by
    intro m request hmem hfree registration hregistration
    rcases m.mem_watchers_handle request hregistration with hold | rfl
    · exact hfree registration hold
    · exact h _ _ hmem
  exact session_induction hhandle (fun _ hmem => hmem) nofun

/-! ### The machine without watchers -/

/-- The machine without watchers and without their calls. -/
def unwatched (m : Machine) : Machine :=
  { m with memory := m.memory.unwatched, sightings := #[] }

/-- Reading does not see the watchers. -/
lemma isUnread_unwatched : IsUnread unwatched where
  registers m := rfl
  read m address := rfl
  withRegisters m registers := rfl
  withOutput m value := rfl
  tell m e := by
    unfold tell
    change (if m.tracing then _ else _) = _
    split <;> rfl
  note m e := rfl

section

variable {m m' : Machine}

/-- Neither does storing, if none of them objects. -/
lemma performsThrough_unwatched_sto (h : m.memory.IsVetoFree) (a : Int) :
    PerformsThrough unwatched m (.sto a) := by
  have hwrite : m.unwatched.memory.write a m.unwatched.registers.acc =
      ([], (m.memory.write a m.registers.acc).2.map Memory.unwatched) :=
    Memory.write_unwatched h a m.registers.acc
  simp only [PerformsThrough, perform, hwrite]
  rcases m.memory.write a m.registers.acc with ⟨calls, cause | memory⟩
  · rfl
  · rfl

/-- A step does the same without the watchers, if none of them objects. -/
theorem step_unwatched (h : m.memory.IsVetoFree) :
    m.unwatched.step = (m.step.1.unwatched, m.step.2) := by
  refine isUnread_unwatched.step fun word i _ _ _ => ?_
  have hfetched : (m.fetched word).memory.IsVetoFree := by rwa [fetched_memory]
  exact isUnread_unwatched.performsThrough
    (fun _ => isUnread_unwatched.performsThrough_inp rfl fun _ => rfl)
    fun a _ => performsThrough_unwatched_sto hfetched a

/-- The machines differ at most in their watchers, none of which objects, in what these were told,
and in their events. -/
structure SameButWatch (m m' : Machine) : Prop where
  same : SameButEvents m.unwatched m'.unwatched
  vetoFree : m.memory.IsVetoFree
  vetoFree' : m'.memory.IsVetoFree

/-- Such machines make the same step. -/
theorem SameButWatch.step (h : SameButWatch m m') :
    SameButWatch m.step.1 m'.step.1 ∧ m.step.2 = m'.step.2 := by
  have hstep := h.same.step
  rw [step_unwatched h.vetoFree, step_unwatched h.vetoFree'] at hstep
  have hkept : ∀ now : Machine, now.memory.IsVetoFree → now.step.1.memory.IsVetoFree := by
    intro now hfree
    unfold Memory.IsVetoFree
    rw [now.step_watchers]
    exact hfree
  exact ⟨⟨hstep.1, hkept m h.vetoFree, hkept m' h.vetoFree'⟩, hstep.2⟩

/-- They run in lockstep. -/
lemma isLockstep_sameButWatch : IsLockstep (fun _ => False) SameButWatch where
  registers _ _ h := h.same.registers
  note _ _ e h := ⟨h.same.note e e, h.vetoFree, h.vetoFree'⟩
  step _ _ h _ := h.step

end

/-! ### Restarting -/

section

variable {words xs : List Int}

/-- The two orders in which a machine is restarted with a program. -/
def restarts (words : List Int) : List (List Request) :=
  [[.reset, .load (words.map .integer)], [.load (words.map .integer), .reset]]

/-- The machine restarted with a program and its inputs. -/
def restarted (m : Machine) (words xs : List Int) : Machine :=
  { m with
    registers := {}
    memory := { m.memory with cells := padded words }
    input := ⟨xs⟩
    output := {}
    trace := #[]
    events := m.events.push (.loadedImage words.length) }

/-- A request to load words is carried out. -/
lemma handle_load_integers (m : Machine) (hlength : words.length ≤ 100)
    (hwords : ∀ w ∈ words, IsWord w) : (m.handle (.load (words.map .integer))).1 =
      { m with
        registers := {}
        memory := { m.memory with cells := padded words }
        events := m.events.push (.loadedImage words.length) } := by
  unfold handle
  dsimp only
  rw [m.load_integers hlength hwords]
  rfl

/-- So is a request to inject words. -/
lemma handle_inject_integers (m : Machine) (hxs : ∀ x ∈ xs, IsWord x) :
    (m.handle (.inject (xs.map .integer))).1 = m.supplied xs := by
  unfold handle
  dsimp only
  rw [m.inject_words xs hxs]
  rfl

/-- In either order a reset and a load, with an injection behind them, leave the machine
restarted. -/
theorem session_restart (m : Machine) (hlength : words.length ≤ 100)
    (hwords : ∀ w ∈ words, IsWord w) (hxs : ∀ x ∈ xs, IsWord x) {restart : List Request}
    (hrestart : restart ∈ restarts words) :
    m.session (restart ++ [.inject (xs.map .integer)]) = m.restarted words xs := by
  have hreset : ∀ m : Machine, (m.handle .reset).1 = m.reset := fun _ => rfl
  simp only [restarts, List.mem_cons, List.not_mem_nil, or_false] at hrestart
  rcases hrestart with rfl | rfl
  · simp only [List.cons_append, List.nil_append, session, hreset,
      handle_load_integers _ hlength hwords, handle_inject_integers _ hxs]
    rfl
  · simp only [List.cons_append, List.nil_append, session, hreset,
      handle_load_integers _ hlength hwords, handle_inject_integers _ hxs]
    rfl

/-- A new machine, with the switch of its trace as it may be, is in that state once it is loaded
and has its inputs. -/
lemma session_new (on : Bool) (hlength : words.length ≤ 100) (hwords : ∀ w ∈ words, IsWord w)
    (hxs : ∀ x ∈ xs, IsWord x) :
    session (withTracing {} on) [.load (words.map .integer), .inject (xs.map .integer)] =
      (withTracing {} on).restarted words xs := by
  simp only [session, handle_load_integers _ hlength hwords, handle_inject_integers _ hxs]
  rfl

/-- Restarted machines differ at most in their watchers, in calls and in events. -/
lemma sameButWatch_restarted (m : Machine) (h : m.memory.IsVetoFree) :
    SameButWatch (m.restarted words xs) ((withTracing {} m.tracing).restarted words xs) :=
  ⟨rfl, h, nofun⟩

end

/-- Two runs come to the same: the result or the error, the values written, the values that wait,
the registers and the words in the mailboxes. -/
structure ComesToSame (ended ended' : Machine × Except Error Run) : Prop where
  outcome : ended.2 = ended'.2
  outputs : ended.1.outputs = ended'.1.outputs
  pending : ended.1.input.pending = ended'.1.input.pending
  registers : ended.1.registers = ended'.1.registers
  snapshot : ended.1.memory.snapshot = ended'.1.memory.snapshot

section

variable {ended ended' ended'' : Machine × Except Error Run}

lemma ComesToSame.trans (h : ComesToSame ended ended') (h' : ComesToSame ended' ended'') :
    ComesToSame ended ended'' :=
  ⟨h.outcome.trans h'.outcome, h.outputs.trans h'.outputs, h.pending.trans h'.pending,
    h.registers.trans h'.registers, h.snapshot.trans h'.snapshot⟩

/-- Watchers, calls and events are not among what a run comes to, -/
lemma SameButWatch.comesToSame (h : SameButWatch ended.1 ended'.1) (houtcome : ended.2 = ended'.2) :
    ComesToSame ended ended' where
  outcome := houtcome
  outputs := h.same.outputs
  pending := congrArg (fun m => m.input.pending) h.same
  registers := h.same.registers
  snapshot := congrArg (fun m => m.memory.snapshot) h.same

/-- nor is the trace. -/
lemma SameButTrace.comesToSame (h : SameButTrace ended.1 ended'.1) (houtcome : ended.2 = ended'.2) :
    ComesToSame ended ended' where
  outcome := houtcome
  outputs := h.outputs
  pending := congrArg (fun m => m.input.pending) h
  registers := h.registers
  snapshot := congrArg Memory.snapshot h.memory

end

/-- A reset and a load erase the past. Whatever has become of a machine, a reset and a load of a
program, in either order, and an injection of inputs leave it restarted. If no watcher of it
objects, a run from there comes to the same as the load, the injection and the run on a new machine,
be it a result or an error, and leaves the same values, registers and words. The trace is that of a
new machine whose trace is switched alike. -/
theorem restart_forgets (m : Machine) (hveto : m.memory.IsVetoFree) {words xs : List Int}
    (hlength : words.length ≤ 100) (hwords : ∀ w ∈ words, IsWord w) (hxs : ∀ x ∈ xs, IsWord x)
    {restart : List Request} (hrestart : restart ∈ restarts words) (n : Int) :
    m.session (restart ++ [.inject (xs.map .integer)]) = m.restarted words xs ∧
      ComesToSame ((m.session (restart ++ [.inject (xs.map .integer)])).run n)
        ((session {} [.load (words.map .integer), .inject (xs.map .integer)]).run n) ∧
      ((m.session (restart ++ [.inject (xs.map .integer)])).run n).1.traceText =
        ((session {} [.setTracing m.tracing, .load (words.map .integer),
          .inject (xs.map .integer)]).run n).1.traceText := by
  have hnew : session {} [.load (words.map .integer), .inject (xs.map .integer)] =
      (withTracing {} false).restarted words xs := session_new false hlength hwords hxs
  have hswitched : session {} [.setTracing m.tracing, .load (words.map .integer),
      .inject (xs.map .integer)] = (withTracing {} m.tracing).restarted words xs :=
    session_new m.tracing hlength hwords hxs
  have hrestarted := session_restart m hlength hwords hxs hrestart
  rw [hrestarted, hnew, hswitched]
  -- from the used machine to the new one that is switched alike, and from that to the new one
  obtain ⟨hwatch, houtcome⟩ := isLockstep_sameButWatch.run (sameButWatch_restarted m hveto) n
    fun _ _ => id
  have hswitch : SameButTrace ((withTracing {} m.tracing).restarted words xs)
      ((withTracing {} false).restarted words xs) := rfl
  obtain ⟨htrace, houtcome'⟩ := hswitch.run n
  refine ⟨rfl, (hwatch.comesToSame houtcome).trans (htrace.comesToSame houtcome'), ?_⟩
  exact congrArg (fun m => m.traceText) hwatch.same

/-- A machine with a past: it keeps a trace, a mailbox is watched, a program has overwritten itself
and failed, a run was out of budget, and registers were assigned. -/
def worn : Machine :=
  session {} [.setTracing true, .watch 5 { name := "first" },
    .load ([901, 302, 902].map .integer), .inject [.integer 450, .integer 8], .run 9,
    .assign (.pc 0), .run 1, .assign (.neg true), .assign (.halted true), .pushOutput 77]

/-- The used machine is loaded before it is reset, and its program stores into the watched
mailbox. -/
theorem restart_forgets_worn :
    worn.session [.load ([901, 305, 902, 0].map .integer), .reset, .inject ([4].map .integer)] =
        worn.restarted [901, 305, 902, 0] [4] ∧
      ComesToSame
        ((worn.session [.load ([901, 305, 902, 0].map .integer), .reset,
          .inject ([4].map .integer)]).run 10)
        ((session {} [.load ([901, 305, 902, 0].map .integer),
          .inject ([4].map .integer)]).run 10) ∧
      ((worn.session [.load ([901, 305, 902, 0].map .integer), .reset,
          .inject ([4].map .integer)]).run 10).1.traceText =
        ((session {} [.setTracing true, .load ([901, 305, 902, 0].map .integer),
          .inject ([4].map .integer)]).run 10).1.traceText := by
  have hveto : worn.memory.IsVetoFree := by
    refine isVetoFree_session fun a w h => ?_
    simp only [List.mem_cons, reduceCtorEq, List.not_mem_nil, or_false, false_or,
      Request.watch.injEq] at h
    obtain ⟨-, rfl⟩ := h
    exact fun _ _ => rfl
  have horder : [.load ([901, 305, 902, 0].map .integer), .reset] ∈ restarts [901, 305, 902, 0] :=
    List.mem_cons_of_mem _ List.mem_cons_self
  have hwords : ∀ w ∈ [901, 305, 902, 0], IsWord w := by decide
  have hxs : ∀ x ∈ [4], IsWord x := by decide
  have hswitch : worn.tracing = true := by decide
  have hforgets := restart_forgets worn hveto (by decide) hwords hxs horder 10
  rw [hswitch] at hforgets
  exact hforgets

end Machine

end LittleMan
