import LittleMan.Proofs.Machine.Chronicle
import LittleMan.Proofs.Machine.Range

/-!
# Watched mailboxes

Who is called when a word is written into a mailbox is decided by the requests of the session alone:
a registration stands until a request ends it (`standing`), and nothing else that is done to the
machine registers a watcher or ends a registration (`watchersOf_session`). So at every moment of a
session, also in the middle of a run, a write calls the watchers whose registrations stand, in the
order of the registrations and up to the first that objects (`Delivers`), be it a write that is
asked for or a step that stores the accumulator. Everything else is done without a call.

The record of the calls is then a record of the writes: if every mailbox has one watcher and none of
them objects, the memory after a run is the memory before it with the recorded words put in
(`replays_run`).

The statements are put together in `session_watched`.
-/

namespace LittleMan

/-- The change that a call of a watcher announces. -/
def Sighting.change (s : Sighting) : Change :=
  ⟨s.address.toNat, s.old, s.new⟩

namespace Machine

/-! ### Registrations -/

/-- The watcher that a request registers for the mailbox `a`, if it does. -/
def Request.registers? (a : Int) : Request → Option Watcher
  | .watch b w => if a = b then some w else none
  | _ => none

/-- The request ends the registrations of a watcher for the mailbox `a`, or those of all its
watchers. -/
def Request.ends (a : Int) (w : Watcher) : Request → Bool
  | .unwatch b name => a = b && name.all (· = w.name)
  | _ => false

/-- The watchers of a mailbox after a list of requests, by the registrations that stand: those that
none of the requests behind them ends. -/
def standing (a : Int) : List Request → List Watcher
  | [] => []
  | request :: rest =>
    ((request.registers? a).toList.filter fun w => !rest.any (Request.ends a w)) ++ standing a rest

/-- A run registers no watcher and ends no registration. -/
lemma run_watchers (m : Machine) (budget : Int) :
    (m.run budget).1.memory.watchers = m.memory.watchers := by
  let P (after : Machine) : Prop := after.memory.watchers = m.memory.watchers
  have hstep : ∀ after, P after → P after.step.1 := fun after h => after.step_watchers.trans h
  exact run_induction hstep (fun _ _ h => h) budget rfl

/-- Loading replaces the words in the mailboxes and keeps the registrations. -/
lemma watchers_of_loadWords {memory memory' : Memory} {text : Text}
    (h : loadWords memory text = .ok memory') : memory'.watchers = memory.watchers := by
  unfold loadWords at h
  split at h
  · cases h
  · exact Memory.watchers_of_load h

/-- Only two requests touch registrations. -/
lemma handle_watchers (m : Machine) {request : Request} (hwatch : ∀ a w, request ≠ .watch a w)
    (hunwatch : ∀ a name, request ≠ .unwatch a name) :
    (m.handle request).1.memory.watchers = m.memory.watchers := by
  cases hexecution : request.isExecution with
  | true =>
    cases request with
    | step =>
      rw [handle_step]
      exact m.step_watchers
    | run budget =>
      rw [handle_run]
      exact m.run_watchers budget
    | _ => cases hexecution
  | false =>
    have hcases := m.handle_cases hexecution
    generalize (m.handle request).1 = after at hcases
    generalize (m.handle request).2.isOk = ok at hcases
    cases hcases with
    | load image memory load => exact Memory.watchers_of_load load
    | loadText text memory load => exact watchers_of_loadWords load
    | loadMemory image memory load => exact Memory.watchers_of_load load
    | loadMemoryText text memory load => exact watchers_of_loadWords load
    | written a value calls memory write =>
      exact Memory.watchers_of_write (congrArg Prod.snd write)
    | watch a w => exact absurd rfl (hwatch a w)
    | unwatch a name => exact absurd rfl (hunwatch a name)
    | _ => rfl

section

variable {a : Int}

/-- The watchers of a mailbox after a registration. -/
lemma watchersOf_concat (memory : Memory) (b : Int) (w : Watcher) :
    Memory.watchersOf { memory with watchers := memory.watchers ++ [(b, w)] } a =
      memory.watchersOf a ++ (Request.registers? a (.watch b w)).toList := by
  unfold Memory.watchersOf Request.registers?
  by_cases hb : b = a
  · simp [hb]
  · simp [hb, Ne.symm hb]

/-- The watchers of a mailbox after registrations were ended. -/
lemma watchersOf_unwatch (memory : Memory) (b : Int) (name : Option Text) :
    (memory.unwatch b name).watchersOf a =
      (memory.watchersOf a).filter fun w => !Request.ends a w (.unwatch b name) := by
  unfold Memory.watchersOf Memory.unwatch Request.ends
  rw [List.filter_map, List.filter_filter, List.filter_filter]
  congr 1
  refine List.filter_congr fun ⟨b', w⟩ _ => ?_
  by_cases hb : b' = a
  · subst hb
    cases name <;> simp
  · simp [hb]

/-- What a request does to the watchers of a mailbox: some registrations may end, and one may be
added. -/
lemma watchersOf_handle (ha : IsAddress a) (m : Machine) (request : Request) :
    (m.handle request).1.memory.watchersOf a =
      ((m.memory.watchersOf a).filter fun w => !request.ends a w) ++
        (request.registers? a).toList := by
  have hkept : (∀ b w, request ≠ .watch b w) → (∀ b name, request ≠ .unwatch b name) →
      (m.handle request).1.memory.watchersOf a = m.memory.watchersOf a := by
    intro hwatch hunwatch
    unfold Memory.watchersOf
    rw [m.handle_watchers hwatch hunwatch]
  cases request with
  | watch b w =>
    have hfilter : (m.memory.watchersOf a).filter (fun w' => !Request.ends a w' (.watch b w)) =
        m.memory.watchersOf a := List.filter_eq_self.mpr fun _ _ => rfl
    rw [hfilter]
    by_cases hb : IsAddress b
    · have hwatch := (m.memory.watch_eq_ok_iff _ b w).mpr ⟨hb, rfl⟩
      simp only [handle, hwatch, withMemory]
      exact watchersOf_concat m.memory b w
    · have hne : a ≠ b := fun h => hb (h ▸ ha)
      have hrefused : m.memory.watch b w = .error (.noMailbox b) := if_neg hb
      simp only [handle, hrefused, withMemory]
      simp [Request.registers?, hne]
  | unwatch b name =>
    have hnone : (Request.unwatch b name).registers? a = none := rfl
    rw [hnone, Option.toList_none, List.append_nil]
    exact watchersOf_unwatch m.memory b name
  | _ =>
    rw [hkept (by intros; simp) (by intros; simp)]
    simp [Request.ends, Request.registers?]

/-- The watchers of a mailbox after a session: the ones from before it whose registrations were not
ended, and behind them those whose registrations in the session stand. -/
theorem watchersOf_session (ha : IsAddress a) (m : Machine) (requests : List Request) :
    (m.session requests).memory.watchersOf a =
      ((m.memory.watchersOf a).filter fun w => !requests.any (Request.ends a w)) ++
        standing a requests := by
  induction requests generalizing m with
  | nil =>
    rw [session, standing, List.append_nil, eq_comm, List.filter_eq_self]
    exact fun _ _ => rfl
  | cons request rest ih =>
    rw [session, ih, watchersOf_handle ha, List.filter_append, List.filter_filter, standing,
      List.append_assoc]
    congr 1
    refine List.filter_congr fun w _ => ?_
    rw [List.any_cons, Bool.not_or, Bool.and_comm]

end

/-! ### Writes -/

/-- The machine `after` is what a write of a word into the mailbox `a` of the machine `before`
leaves, when the mailbox held `content` and these are its watchers. -/
structure Delivers (watchers : List Watcher) (a content value : Int) (before after : Machine) :
    Prop where
  held : before.memory.read a = .ok content
  /-- The watchers up to the first that objects are told of the write, one after the other, while
  the mailbox still holds the word from before. -/
  calls : after.sightings = before.sightings ++
    (Memory.called a content value watchers).map fun w =>
      (⟨w.name, a, content, value, content⟩ : Sighting)
  /-- The mailbox holds the new word if none of them objects. -/
  written : (∀ w ∈ watchers, w.objection? a content value = none) →
    after.memory.read a = .ok value
  /-- It holds the word from before if one of them does. -/
  kept : (∃ w ∈ watchers, w.objection? a content value ≠ none) → after.memory.read a = .ok content
  /-- No other mailbox changes. -/
  others : ∀ b, b ≠ a → after.memory.read b = before.memory.read b

/-- The memory after a write, which is the one from before if the write is refused. -/
def memoryAfter (m : Machine) (a value : Int) : Memory :=
  match (m.memory.write a value).2 with
  | .ok memory => memory
  | .error _ => m.memory

section

variable {m after : Machine} {a value : Int}

/-- Whatever records the calls of a write and leaves the memory that the write leaves has delivered
the write to the watchers of the mailbox. -/
lemma delivers_of_write (h : m.memory.HoldsWords) {content : Int}
    (hread : m.memory.read a = .ok content) (hvalue : IsWord value)
    (hsightings : after.sightings = m.sightings ++ (m.memory.write a value).1)
    (hmemory : after.memory = m.memoryAfter a value) :
    Delivers (m.memory.watchersOf a) a content value m after := by
  obtain ⟨ha, hcell⟩ := (m.memory.read_eq_ok_iff a content).mp hread
  unfold memoryAfter at hmemory
  rw [m.memory.write_eq ha hvalue, hcell] at hsightings hmemory
  refine ⟨hread, hsightings, fun hnone => ?_, fun hobjects => ?_, fun b hb => ?_⟩
  · have hfind : Memory.objection? a content value (m.memory.watchersOf a) = none :=
      List.findSome?_eq_none_iff.mpr hnone
    rw [hfind] at hmemory
    rw [hmemory, Memory.read_set h.length_eq ha, if_pos rfl]
  · have hfind : Memory.objection? a content value (m.memory.watchersOf a) ≠ none := by
      rw [Memory.objection?, Ne, List.findSome?_eq_none_iff]
      push Not
      exact hobjects
    obtain ⟨o, ho⟩ := Option.ne_none_iff_exists'.mp hfind
    rw [ho] at hmemory
    rw [hmemory]
    exact hread
  · cases hfind : Memory.objection? a content value (m.memory.watchersOf a) with
    | none =>
      rw [hfind] at hmemory
      rw [hmemory, Memory.read_set h.length_eq ha, if_neg hb]
    | some o =>
      rw [hfind] at hmemory
      rw [hmemory]

/-- A write that is asked for records its calls and leaves its memory. -/
lemma effect_of_write (m : Machine) (a value : Int) :
    (m.handle (.write a value)).1.sightings = m.sightings ++ (m.memory.write a value).1 ∧
      (m.handle (.write a value)).1.memory = m.memoryAfter a value := by
  rw [handle_write]
  unfold memoryAfter
  cases (m.memory.write a value).2 <;> exact ⟨rfl, rfl⟩

/-- What the step of a running machine does that stores the accumulator. -/
lemma step_of_sto (running : m.registers.halted = false) (carried : m.next? = some (.sto a)) :
    m.step.1.sightings = m.sightings ++ (m.memory.write a m.registers.acc).1 ∧
      m.step.1.memory = m.memoryAfter a m.registers.acc ∧
      m.step.2 = match (m.memory.write a m.registers.acc).2 with
        | .ok _ => .ok none
        | .error cause =>
          .error (Fault.ofCause cause m.registers.pc (m.registers.cycles + 1)) := by
  obtain ⟨word, hread, hdecode⟩ := (m.next?_eq_some_iff _).mp carried
  have hwrite : (m.fetched word).memory.write a (m.fetched word).registers.acc =
      m.memory.write a m.registers.acc := by
    rw [fetched_memory, fetched_registers]
  rw [step_of_decode? running hread hdecode]
  unfold memoryAfter
  simp only [perform, hwrite]
  rcases m.memory.write a m.registers.acc with ⟨calls, cause | memory⟩
  · refine ⟨?_, ?_, rfl⟩
    · rw [fail_sightings, fetched_sightings]
    · rw [fail_memory, fetched_memory]
  · refine ⟨?_, complete_memory _ _, ?_⟩
    · rw [complete_sightings, fetched_sightings]
    · rw [complete_stop, fetched_registers, running]
      rfl

/-- If the accumulator holds no word, the step fails; it leaves the mailboxes alone and calls
nobody. -/
lemma step_of_sto_of_not_isWord (running : m.registers.halted = false)
    (carried : m.next? = some (.sto a)) (hacc : ¬ IsWord m.registers.acc) :
    m.step.1.sightings = m.sightings ∧ m.step.1.memory = m.memory ∧ ∃ f, m.step.2 = .error f := by
  obtain ⟨hsightings, hmemory, houtcome⟩ := step_of_sto running carried
  obtain ⟨cause, hrefused⟩ := m.memory.write_of_not (a := a) fun hboth => hacc hboth.2
  unfold memoryAfter at hmemory
  rw [hrefused] at hsightings hmemory houtcome
  exact ⟨by simpa using hsightings, hmemory, _, houtcome⟩

/-- Every other instruction leaves the mailboxes alone and calls nobody. -/
lemma perform_of_ne_sto {i : Instruction} (h : ∀ a, i ≠ .sto a) :
    (m.perform i).1.sightings = m.sightings ∧ (m.perform i).1.memory = m.memory := by
  have hcases := m.perform_cases i
  generalize m.perform i = r at hcases
  cases hcases with
  | sto a => exact absurd rfl (h a)
  | unwritten a => exact absurd rfl (h a)
  | sub a word => exact ⟨setDifference_sightings m _, setDifference_memory m _⟩
  | _ => exact ⟨rfl, rfl⟩

/-- So does every other step. -/
lemma step_of_ne_sto (h : ∀ a, m.next? ≠ some (.sto a)) :
    m.step.1.sightings = m.sightings ∧ m.step.1.memory = m.memory := by
  have hperform : ∀ word i, m.memory.read m.registers.pc = .ok word →
      Instruction.decode? word = some i → ((m.fetched word).perform i).1.sightings = m.sightings ∧
        ((m.fetched word).perform i).1.memory = m.memory := by
    intro word i read decode
    have hi : ∀ a, i ≠ .sto a := by
      rintro a rfl
      exact h a ((m.next?_eq_some_iff _).mpr ⟨word, read, decode⟩)
    have hsame := perform_of_ne_sto (m := m.fetched word) hi
    rwa [fetched_sightings, fetched_memory] at hsame
  have hcases := m.step_cases
  generalize m.step = ended at hcases
  cases hcases with
  | halted => exact ⟨rfl, rfl⟩
  | unfetched => exact ⟨fail_sightings _ _ _ _, fail_memory _ _ _ _⟩
  | undecoded => exact ⟨fail_sightings _ _ _ _, fail_memory _ _ _ _⟩
  | failed word i after cause running read decode perform =>
    have hsame := hperform word i read decode
    rw [perform] at hsame
    rw [fail_sightings, fail_memory]
    exact hsame
  | completed word i after running read decode perform =>
    have hsame := hperform word i read decode
    rw [perform] at hsame
    rw [complete_sightings, complete_memory]
    exact hsame

end

/-- Nothing but a write and the execution of instructions calls watchers. -/
lemma handle_sightings (m : Machine) {request : Request} (hexecution : request.isExecution = false)
    (hwrite : ∀ a value, request ≠ .write a value) :
    (m.handle request).1.sightings = m.sightings := by
  have hcases := m.handle_cases hexecution
  generalize (m.handle request).1 = after at hcases
  generalize (m.handle request).2.isOk = ok at hcases
  cases hcases with
  | unwritten a value => exact absurd rfl (hwrite a value)
  | written a value => exact absurd rfl (hwrite a value)
  | _ => rfl

/-! ### Replaying the calls -/

/-- The calls that were recorded between two moments, put into the memory of the first one, give
the memory of the second one. -/
def Replays (before after : Machine) : Prop :=
  ∃ calls : List Sighting, after.sightings = before.sightings ++ calls ∧
    after.memory.snapshot = Change.apply before.memory.snapshot (calls.map Sighting.change)

/-- Nothing is to be replayed if nothing was recorded and no mailbox has changed. -/
lemma replays_of_eq {before after : Machine} (hsightings : after.sightings = before.sightings)
    (hmemory : after.memory = before.memory) : Replays before after := by
  refine ⟨[], by simp [hsightings], ?_⟩
  rw [hmemory]
  rfl

/-- What is recorded from one moment to the next is replayed in that order. -/
lemma Replays.trans {before now after : Machine} (h : Replays before now)
    (h' : Replays now after) : Replays before after := by
  obtain ⟨calls, hcalls, hmemory⟩ := h
  obtain ⟨calls', hcalls', hmemory'⟩ := h'
  refine ⟨calls ++ calls', ?_, ?_⟩
  · rw [hcalls', hcalls]
    exact Array.ext' (by simp)
  · rw [hmemory', hmemory]
    unfold Change.apply
    rw [List.map_append, List.foldl_append]

/-- Every mailbox has exactly one watcher, and it never objects. -/
def IsObserved (memory : Memory) : Prop :=
  ∀ a, IsAddress a →
    ∃ w, memory.watchersOf a = [w] ∧ ∀ old new, w.objection? a old new = none

/-- In an observed memory the one call of a write announces the change that it makes. -/
lemma replays_of_write {m after : Machine} (h : IsObserved m.memory) {a : Int} (ha : IsAddress a)
    (value : Int) (hsightings : after.sightings = m.sightings ++ (m.memory.write a value).1)
    (hmemory : after.memory = m.memoryAfter a value) : Replays m after := by
  refine ⟨_, hsightings, ?_⟩
  unfold memoryAfter at hmemory
  by_cases hvalue : IsWord value
  · obtain ⟨w, hw, hnone⟩ := h a ha
    rw [m.memory.write_eq ha hvalue, hw] at hmemory ⊢
    simp only [Memory.objection?, List.findSome?_cons, hnone, List.findSome?_nil] at hmemory
    rw [hmemory]
    simp [Memory.called, Memory.Objects, hnone, Memory.snapshot, Change.apply, Sighting.change]
  · obtain ⟨cause, hrefused⟩ := m.memory.write_of_not fun hboth => hvalue hboth.2
    rw [hrefused] at hmemory ⊢
    rw [hmemory]
    rfl

/-- A step in an observed memory can be replayed. -/
lemma replays_step {m : Machine} (h : IsObserved m.memory) : Replays m m.step.1 := by
  by_cases hsto : ∃ a, m.next? = some (.sto a)
  · obtain ⟨a, carried⟩ := hsto
    cases running : m.registers.halted with
    | true =>
      rw [step_of_halted running]
      exact replays_of_eq rfl rfl
    | false =>
      obtain ⟨word, -, hdecode⟩ := (m.next?_eq_some_iff _).mp carried
      have ha : IsAddress a := Instruction.isAddress_of_decode? hdecode rfl
      obtain ⟨hsightings, hmemory, -⟩ := step_of_sto running carried
      exact replays_of_write h ha _ hsightings hmemory
  · obtain ⟨hsightings, hmemory⟩ := step_of_ne_sto (not_exists.mp hsto)
    exact replays_of_eq hsightings hmemory

/-- A run in an observed memory can be replayed, however it ends. -/
theorem replays_run {m : Machine} (h : IsObserved m.memory) (budget : Int) :
    Replays m (m.run budget).1 := by
  let P (now : Machine) : Prop := now.memory.watchers = m.memory.watchers ∧ Replays m now
  have hstep : ∀ now, P now → P now.step.1 := by
    rintro now ⟨hwatchers, hreplays⟩
    have hobserved : IsObserved now.memory := by
      unfold IsObserved Memory.watchersOf
      rw [hwatchers]
      exact h
    exact ⟨now.step_watchers.trans hwatchers, hreplays.trans (replays_step hobserved)⟩
  have hrun : P (m.run budget).1 := run_induction hstep (fun _ _ h => h) budget
    ⟨rfl, replays_of_eq rfl rfl⟩
  exact hrun.2

/-! ### Every moment of a session -/

section

variable {requests : List Request} {k : Nat} {now : Machine}

/-- At every moment of a session on a new machine the watchers of a mailbox are those whose
registrations stand. -/
lemma watchersOf_of_completes (h : Completes (session {} requests) k now) {a : Int}
    (ha : IsAddress a) : now.memory.watchersOf a = standing a requests := by
  let P (m : Machine) : Prop := m.memory.watchersOf a = standing a requests
  have hsession : P (session {} requests) := watchersOf_session ha {} requests
  have hstep : ∀ m, P m → P m.step.1 := by
    intro m hm
    change m.step.1.memory.watchersOf a = standing a requests
    unfold Memory.watchersOf
    rw [m.step_watchers]
    exact hm
  exact h.keeps hstep hsession

/-- At every such moment the mailboxes hold words. -/
lemma holdsWords_of_completes (h : Completes (session {} requests) k now) :
    now.memory.HoldsWords := by
  have hsession : (session {} requests).StoresWords :=
    session_induction (fun _ request _ h => h.handle request) (fun _ _ => trivial)
      inRange_new.toStoresWords
  have hnow : now.StoresWords := h.keeps (fun _ hwords => hwords.step) hsession
  exact hnow.memory

end

/-- What becomes of writes at a moment of a session in which these requests have been made. -/
structure IsWatched (requests : List Request) (now : Machine) : Prop where
  /-- A write of a word into a mailbox is delivered to the watchers whose registrations stand, and
  refused with the first objection. -/
  write : ∀ a value, IsAddress a → IsWord value →
    ∃ content, Delivers (standing a requests) a content value now
        (now.handle (.write a value)).1 ∧
      (now.handle (.write a value)).2 =
        match Memory.objection? a content value (standing a requests) with
        | some o => .error (.fault { cause := o.cause })
        | none => .ok .done
  /-- So is a step that stores a word. -/
  store : ∀ a, now.registers.halted = false → now.next? = some (.sto a) →
    IsWord now.registers.acc →
      ∃ content, Delivers (standing a requests) a content now.registers.acc now now.step.1 ∧
        now.step.2 =
          match Memory.objection? a content now.registers.acc (standing a requests) with
          | some o =>
            .error (Fault.ofCause o.cause now.registers.pc (now.registers.cycles + 1))
          | none => .ok none
  /-- A write into no mailbox or of no word is refused, and nothing changes. -/
  refused : ∀ a value, ¬ (IsAddress a ∧ IsWord value) →
    ∃ cause, now.handle (.write a value) = (now, .error (.fault { cause }))
  /-- A step that would store no word fails; it calls nobody and leaves the memory alone. -/
  unstorable : ∀ a, now.registers.halted = false → now.next? = some (.sto a) →
    ¬ IsWord now.registers.acc → now.step.1.sightings = now.sightings ∧
      now.step.1.memory = now.memory ∧ ∃ f, now.step.2 = .error f
  /-- Every other step calls nobody and leaves the memory alone. -/
  step : (now.registers.halted = true ∨ ∀ a, now.next? ≠ some (.sto a)) →
    now.step.1.sightings = now.sightings ∧ now.step.1.memory = now.memory
  /-- Every other request calls nobody. -/
  request : ∀ request : Request, request.isExecution = false →
    (∀ a value, request ≠ .write a value) → (now.handle request).1.sightings = now.sightings
  /-- If one registration stands for each mailbox and none of these watchers objects, the calls of a
  run, put into the memory before it, give the memory after it. -/
  run : (∀ a, IsAddress a →
      ∃ w, standing a requests = [w] ∧ ∀ old new, w.objection? a old new = none) →
    ∀ budget, Replays now (now.run budget).1

/-- In every session on a new machine, after the requests so far and any number of instructions
completed since, writes are delivered to the watchers whose registrations stand, and nothing else
calls a watcher. -/
theorem session_watched {requests : List Request} {k : Nat} {now : Machine}
    (h : Completes (session {} requests) k now) : IsWatched requests now := by
  have hwords : now.memory.HoldsWords := holdsWords_of_completes h
  have hwatchers : ∀ a, IsAddress a → now.memory.watchersOf a = standing a requests :=
    fun _ => watchersOf_of_completes h
  have hread : ∀ a, IsAddress a → now.memory.read a = .ok (now.memory.cells.getD a.toNat 0) :=
    fun a ha => (now.memory.read_eq_ok_iff a _).mpr ⟨ha, rfl⟩
  refine ⟨?_, ?_, ?_, ?_, ?_, fun request => now.handle_sightings, ?_⟩
  · intro a value ha hvalue
    obtain ⟨hsightings, hmemory⟩ := now.effect_of_write a value
    refine ⟨_, hwatchers a ha ▸ delivers_of_write hwords (hread a ha) hvalue hsightings hmemory, ?_⟩
    rw [handle_write, now.memory.write_eq ha hvalue, hwatchers a ha]
    cases Memory.objection? a (now.memory.cells.getD a.toNat 0) value (standing a requests) <;> rfl
  · intro a running carried hacc
    obtain ⟨word, -, hdecode⟩ := (now.next?_eq_some_iff _).mp carried
    have ha : IsAddress a := Instruction.isAddress_of_decode? hdecode rfl
    obtain ⟨hsightings, hmemory, houtcome⟩ := step_of_sto running carried
    refine ⟨_, hwatchers a ha ▸ delivers_of_write hwords (hread a ha) hacc hsightings hmemory, ?_⟩
    rw [houtcome, now.memory.write_eq ha hacc, hwatchers a ha]
    cases Memory.objection? a (now.memory.cells.getD a.toNat 0) now.registers.acc
      (standing a requests) <;> rfl
  · intro a value hnot
    obtain ⟨cause, hrefused⟩ := now.memory.write_of_not hnot
    refine ⟨cause, ?_⟩
    rw [handle_write, hrefused]
    simp [withMemory]
  · exact fun a => step_of_sto_of_not_isWord
  · rintro (halted | hnot)
    · rw [step_of_halted halted]
      exact ⟨rfl, rfl⟩
    · exact step_of_ne_sto hnot
  · intro hone budget
    refine replays_run (fun a ha => ?_) budget
    rw [hwatchers a ha]
    exact hone a ha

/-- A program that stores a word in a mailbox with two watchers. The first one registered would be
called last, since its first registration was ended, and the other one vetoes. -/
def vetoedStore : List Request :=
  [.load [.integer 502, .integer 307, .integer 42], .watch 7 { name := "first" },
    .watch 7 (.vetoing "second"), .unwatch 7 (some "first"), .watch 7 { name := "first" }]

/-- The store fails with the veto. -/
theorem session_watched_vetoed : (session {} vetoedStore).step.1.step.2 =
    .error ⟨.declared .general "vetoed by second", some 1, some 2⟩ := by
  have hway : Completes (session {} vetoedStore) 1 (session {} vetoedStore).step.1 :=
    .one rfl (Prod.ext rfl rfl)
  obtain ⟨content, hdelivers, houtcome⟩ := (session_watched hway).store 7 rfl rfl (by decide)
  exact houtcome

end Machine

end LittleMan
