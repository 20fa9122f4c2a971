import LittleMan.Proofs.Machine.Handle
import LittleMan.Proofs.MachineCode

/-!
# Refusals

What a machine asks of a request before it carries it out (`Admits`), and what becomes of a request
that does not meet it. Images and lists of inputs are asked for as a whole: every entry must be a
word, wherever it stands. A write is asked to pass every watcher of its mailbox, and registers are
shown only if their numbers can be written.

A request that executes no instruction is refused exactly if it is not admitted
(`isOk_handle_iff`), and then it leaves the registers, the mailboxes, the registrations, the trays
and the trace as they were (`untouched_of_refused`). What it may leave behind are the calls of
watchers that were made on the way to an objection. Both are put together in `refused_untouched`.
-/

namespace LittleMan

/-! ### What is asked of memory and trays -/

/-- All entries of a list of data are words. -/
def Datum.AreWords (data : List Datum) : Prop :=
  ∀ d ∈ data, ∃ w, d.word? = some w

/-- Then the list is one of words. -/
lemma Datum.exists_words_iff (data : List Datum) :
    (∃ words : List Int, data.map Datum.word? = words.map some) ↔ AreWords data := by
  constructor
  · rintro ⟨words, h⟩ d hd
    have hmem : d.word? ∈ words.map some := h ▸ List.mem_map_of_mem hd
    obtain ⟨w, -, hw⟩ := List.mem_map.mp hmem
    exact ⟨w, hw.symm⟩
  · intro h
    induction data with
    | nil => exact ⟨[], rfl⟩
    | cons d data ih =>
      obtain ⟨⟨w, hw⟩, hdata⟩ := List.forall_mem_cons.mp h
      obtain ⟨words, hwords⟩ := ih hdata
      refine ⟨w :: words, ?_⟩
      rw [List.map_cons, hw, hwords, List.map_cons]

/-- One entry that is no word is enough to refuse the list. -/
lemma Datum.not_areWords {bad : Datum} (h : bad.word? = none) (good rest : List Datum) :
    ¬ AreWords (good ++ bad :: rest) := by
  intro hwords
  obtain ⟨w, hw⟩ := hwords bad (List.mem_append_right good List.mem_cons_self)
  rw [h] at hw
  cases hw

/-- Integers that are words are words. -/
lemma Datum.areWords_integers {words : List Int} (h : ∀ w ∈ words, IsWord w) :
    AreWords (words.map .integer) :=
  (exists_words_iff _).mp ⟨words, map_word?_integers h⟩

namespace Memory

variable (m : Memory)

/-- An image is loaded exactly if it has room and all its entries are words. -/
lemma exists_load_iff (image : List Datum) :
    (∃ m', m.load image = .ok m') ↔ image.length ≤ 100 ∧ Datum.AreWords image := by
  rw [← Datum.exists_words_iff]
  constructor
  · rintro ⟨m', h⟩
    obtain ⟨hlength, words, hwords, -⟩ := (m.load_eq_ok_iff m' image).mp h
    exact ⟨hlength, words, hwords⟩
  · rintro ⟨hlength, words, hwords⟩
    exact ⟨_, (m.load_eq_ok_iff _ image).mpr ⟨hlength, words, hwords, rfl⟩⟩

/-- No watcher of the mailbox objects to a write of the value. -/
def Passes (a value : Int) : Prop :=
  ∀ w ∈ m.watchersOf a, w.objection? a (m.cells.getD a.toNat 0) value = none

/-- A value is written exactly if it is a word for a mailbox and no watcher of it objects. -/
lemma exists_write_iff (a value : Int) : (∃ m', (m.write a value).2 = .ok m') ↔
    IsAddress a ∧ IsWord value ∧ m.Passes a value := by
  by_cases h : IsAddress a ∧ IsWord value
  · have hpasses : m.Passes a value ↔
        objection? a (m.cells.getD a.toNat 0) value (m.watchersOf a) = none :=
      List.findSome?_eq_none_iff.symm
    rw [m.write_eq h.1 h.2, hpasses]
    cases objection? a (m.cells.getD a.toNat 0) value (m.watchersOf a) with
    | none => exact ⟨fun _ => ⟨h.1, h.2, rfl⟩, fun _ => ⟨_, rfl⟩⟩
    | some o => exact ⟨nofun, nofun⟩
  · obtain ⟨cause, hrefused⟩ := m.write_of_not h
    rw [hrefused]
    exact ⟨nofun, fun hall => absurd ⟨hall.1, hall.2.1⟩ h⟩

end Memory

/-- A list of inputs is put on the tray exactly if all its entries are words. -/
lemma InputTray.exists_inject_iff (tray : InputTray) (inputs : List Datum) :
    (∃ tray', tray.inject inputs = .ok tray') ↔ Datum.AreWords inputs := by
  rw [← Datum.exists_words_iff]
  constructor
  · rintro ⟨tray', h⟩
    obtain ⟨words, hwords, -⟩ := (tray.inject_eq_ok_iff tray' inputs).mp h
    exact ⟨words, hwords⟩
  · rintro ⟨words, hwords⟩
    exact ⟨_, (tray.inject_eq_ok_iff _ inputs).mpr ⟨words, hwords, rfl⟩⟩

namespace Machine

/-- Machine-code text is loaded exactly if it reads as words that have room. -/
lemma exists_loadWords_iff (memory : Memory) (text : Text) :
    (∃ memory', loadWords memory text = .ok memory') ↔
      ∃ words, MachineCode.parse text = .ok words ∧ words.length ≤ 100 := by
  unfold loadWords
  cases hparse : MachineCode.parse text with
  | error cause => simp
  | ok words =>
    dsimp only
    have hwords := Datum.areWords_integers (MachineCode.isWord_of_parse hparse)
    rw [memory.exists_load_iff, List.length_map]
    constructor
    · exact fun h => ⟨words, rfl, h.1⟩
    · rintro ⟨_, ⟨⟩, hlength⟩
      exact ⟨hlength, hwords⟩

/-! ### What is asked of a request -/

/-- What a machine asks of a request. -/
def Admits (m : Machine) : Request → Prop
  | .load image | .loadMemory image => image.length ≤ 100 ∧ Datum.AreWords image
  | .loadText text | .loadMemoryText text =>
    ∃ words, MachineCode.parse text = .ok words ∧ words.length ≤ 100
  | .inject inputs => Datum.AreWords inputs
  | .write a value => IsAddress a ∧ IsWord value ∧ m.memory.Passes a value
  | .read a | .watch a _ => IsAddress a
  | .popInput => m.input.pending ≠ []
  | .run budget => 0 ≤ budget
  | .display => ∀ n ∈ [m.registers.pc, m.registers.acc, m.registers.cycles],
    Text.isWritable n = true
  | _ => True

/-- The request executes no instruction, or it is a run that its budget rules out. -/
def Request.IsChecked : Request → Prop
  | .step => False
  | .run budget => budget < 0
  | _ => True

section

variable (m : Machine) {request : Request}

/-- A request that replaces the machine by what a part of it becomes is carried out if the part
becomes something. -/
lemma isOk_orRefuse_iff {ε α : Type} {part : Except ε α} {outcome : Except Fault Machine}
    {put : α → Machine} (h : ∀ after, outcome = .ok after ↔ ∃ a, part = .ok a ∧ after = put a) :
    (m.orRefuse outcome).2.isOk = true ↔ ∃ a, part = .ok a := by
  constructor
  · intro hok
    cases outcome with
    | error f => cases hok
    | ok after =>
      obtain ⟨a, ha, -⟩ := (h after).mp rfl
      exact ⟨a, ha⟩
  · rintro ⟨a, ha⟩
    rw [(h (put a)).mpr ⟨a, ha, rfl⟩]
    rfl

/-- A request that replaces the memory is carried out if there is another memory. -/
lemma isOk_withMemory_iff (outcome : Except Fault.Cause Memory) :
    (m.withMemory outcome).2.isOk = true ↔ ∃ memory, outcome = .ok memory := by
  cases outcome with
  | ok memory => exact ⟨fun _ => ⟨memory, rfl⟩, fun _ => rfl⟩
  | error cause => exact ⟨nofun, nofun⟩

/-- A request that executes nothing is carried out exactly if it is admitted. -/
theorem isOk_handle_iff (h : request.IsChecked) :
    (m.handle request).2.isOk = true ↔ m.Admits request := by
  cases request with
  | step => exact h.elim
  | run budget =>
    unfold handle
    dsimp only
    rw [run_of_neg m h]
    exact ⟨nofun, fun hbudget => absurd hbudget (Int.not_le.mpr h)⟩
  | load image =>
    exact (m.isOk_orRefuse_iff (m.load_eq_ok_iff · image)).trans (m.memory.exists_load_iff image)
  | loadText text =>
    exact (m.isOk_orRefuse_iff (m.loadText_eq_ok_iff · text)).trans
      (exists_loadWords_iff m.memory text)
  | inject inputs =>
    exact (m.isOk_orRefuse_iff (m.inject_eq_ok_iff · inputs)).trans
      (m.input.exists_inject_iff inputs)
  | loadMemory image =>
    exact (m.isOk_withMemory_iff _).trans (m.memory.exists_load_iff image)
  | loadMemoryText text =>
    exact (m.isOk_withMemory_iff _).trans (exists_loadWords_iff m.memory text)
  | write a value =>
    rw [handle_write]
    exact (isOk_withMemory_iff _ _).trans (m.memory.exists_write_iff a value)
  | watch a w =>
    refine (m.isOk_withMemory_iff _).trans ?_
    simp only [m.memory.watch_eq_ok_iff, exists_and_left, exists_eq, and_true]
    rfl
  | read a =>
    unfold handle Memory.read
    by_cases ha : IsAddress a <;> simp [Admits, ha, Except.isOk, Except.toBool]
  | popInput =>
    unfold handle InputTray.pop
    cases hpending : m.input.pending <;> simp [Admits, hpending, Except.isOk, Except.toBool]
  | display =>
    have hwritten (numbers : List Int) (t : Text) :
        (((Text.withIntegers numbers t).mapError Error.overflow).map Reply.text).isOk = true ↔
          ∀ n ∈ numbers, Text.isWritable n = true := by
      rw [← List.all_eq_true, Text.withIntegers]
      cases numbers.all Text.isWritable with
      | true => exact ⟨fun _ => rfl, fun _ => rfl⟩
      | false => exact ⟨nofun, nofun⟩
    exact hwritten _ _
  | _ => exact ⟨fun _ => trivial, fun _ => rfl⟩

end

/-! ### What a refusal leaves -/

/-- The machine has the registers, the mailboxes, the registrations of watchers, the trays and the
trace that it had before, and its log tells nothing new. -/
structure Untouched (m after : Machine) : Prop where
  registers : after.registers = m.registers
  memory : after.memory = m.memory
  input : after.input = m.input
  output : after.output = m.output
  tracing : after.tracing = m.tracing
  trace : after.trace = m.trace
  events : after.events = m.events

section

variable (m : Machine) {request : Request}

/-- A request is refused exactly if there is a reason. -/
lemma exists_error_iff : (∃ e, (m.handle request).2 = .error e) ↔
    (m.handle request).2.isOk = false := by
  cases (m.handle request).2 with
  | ok reply => exact ⟨nofun, nofun⟩
  | error e => exact ⟨fun _ => rfl, fun _ => ⟨e, rfl⟩⟩

/-- What a refused request leaves that executes nothing: calls of watchers, and these only if it is
a write. -/
lemma exists_calls_of_refused (h : request.IsChecked)
    (hrefused : (m.handle request).2.isOk = false) : ∃ calls : List Sighting,
      (m.handle request).1 = { m with sightings := m.sightings ++ calls } ∧
        ((∀ a value, request ≠ .write a value) → calls = []) := by
  have hsame : m = { m with sightings := m.sightings ++ ([] : List Sighting) } := by simp
  cases hexecution : request.isExecution with
  | true =>
    cases request with
    | step => exact h.elim
    | run budget =>
      refine ⟨[], ?_, fun _ => rfl⟩
      rw [handle_run, run_of_neg m h]
      exact hsame
    | _ => cases hexecution
  | false =>
    have hcases := m.handle_cases hexecution
    rw [hrefused] at hcases
    generalize (m.handle request).1 = after at hcases
    cases hcases with
    | refused => exact ⟨[], hsame, fun _ => rfl⟩
    | unwritten a value calls cause write =>
      exact ⟨calls, rfl, fun hwrite => absurd rfl (hwrite a value)⟩

/-- A refused request that executes nothing touches nothing. -/
theorem untouched_of_refused (h : request.IsChecked)
    (hrefused : (m.handle request).2.isOk = false) : m.Untouched (m.handle request).1 := by
  obtain ⟨calls, hafter, -⟩ := m.exists_calls_of_refused h hrefused
  rw [hafter]
  exact ⟨rfl, rfl, rfl, rfl, rfl, rfl, rfl⟩

/-- If it is no write, it leaves the very machine that it found. -/
theorem handle_of_refused (h : request.IsChecked) (hrefused : (m.handle request).2.isOk = false)
    (hwrite : ∀ a value, request ≠ .write a value) : (m.handle request).1 = m := by
  obtain ⟨calls, hafter, hcalls⟩ := m.exists_calls_of_refused h hrefused
  rw [hafter, hcalls hwrite]
  simp

end

/-- A refused request leaves the machine as it was. Of the requests that execute no instruction, and
of the runs with a budget below zero, exactly those are refused that the machine does not admit, and
whatever the reason, the registers, all mailboxes, both trays, the trace and the registrations of
watchers are those from before. An image or a list of inputs with one entry that is no word,
wherever it stands, is refused, and the machine is the very same. -/
theorem refused_untouched (m : Machine) :
    (∀ request : Request, request.IsChecked →
      ((∃ e, (m.handle request).2 = .error e) ↔ ¬ m.Admits request) ∧
      ∀ e, (m.handle request).2 = .error e → m.Untouched (m.handle request).1) ∧
    ∀ (good rest : List Datum) (bad : Datum), bad.word? = none →
      ∀ request ∈ [Request.load (good ++ bad :: rest), .loadMemory (good ++ bad :: rest),
        .inject (good ++ bad :: rest)], ∃ e, m.handle request = (m, .error e) := by
  have hiff : ∀ request : Request, request.IsChecked →
      ((m.handle request).2.isOk = false ↔ ¬ m.Admits request) := by
    intro request h
    rw [← m.isOk_handle_iff h, Bool.not_eq_true]
  refine ⟨fun request h => ⟨?_, fun e he => ?_⟩, fun good rest bad hbad request hrequest => ?_⟩
  · rw [exists_error_iff, hiff request h]
  · exact m.untouched_of_refused h (m.exists_error_iff.mp ⟨e, he⟩)
  · have hnot := Datum.not_areWords hbad good rest
    have hlist : request.IsChecked ∧ ¬ m.Admits request ∧
        ∀ a value, request ≠ .write a value := by
      simp only [List.mem_cons, List.not_mem_nil, or_false] at hrequest
      rcases hrequest with rfl | rfl | rfl
      · exact ⟨trivial, fun hadmits => hnot hadmits.2, nofun⟩
      · exact ⟨trivial, fun hadmits => hnot hadmits.2, nofun⟩
      · exact ⟨trivial, hnot, nofun⟩
    obtain ⟨hchecked, hadmits, hwrite⟩ := hlist
    have hrefused := (hiff request hchecked).mpr hadmits
    obtain ⟨e, he⟩ := m.exists_error_iff.mpr hrefused
    exact ⟨e, Prod.ext (m.handle_of_refused hchecked hrefused hwrite) he⟩

/-- A machine in use: two watchers at a mailbox, of which the second vetoes, a value on either
tray, and an accumulator that has been assigned. -/
def guarded : Machine :=
  session {} [.load [.integer 901, .integer 305], .inject [.integer 7],
    .watch 5 { name := "first" }, .watch 5 (.vetoing "second"), .pushOutput 4, .assign (.acc 250)]

/-- The veto of the second watcher, a run with a budget below zero, and an image with a number that
is no word behind one that is. -/
theorem refused_untouched_guarded :
    ((∃ e, (guarded.handle (.write 5 9)).2 = .error e) ∧
      guarded.Untouched (guarded.handle (.write 5 9)).1) ∧
    guarded.Untouched (guarded.handle (.run (-1))).1 ∧
    ∃ e, guarded.handle (.load [.integer 902, .integer 1000, .integer 0]) =
      (guarded, .error e) := by
  obtain ⟨hchecked, hentry⟩ := refused_untouched guarded
  have hveto : ∃ e, (guarded.handle (.write 5 9)).2 = .error e := ⟨_, rfl⟩
  have hbudget : (guarded.handle (.run (-1))).2 = .error (.negativeBudget (-1)) := rfl
  refine ⟨⟨hveto, ?_⟩, ?_, ?_⟩
  · obtain ⟨e, he⟩ := hveto
    exact (hchecked (.write 5 9) trivial).2 e he
  · have hneg : Request.IsChecked (.run (-1)) := Int.negSucc_lt_zero 0
    exact (hchecked (.run (-1)) hneg).2 _ hbudget
  · exact hentry [.integer 902] [.integer 0] (.integer 1000) rfl _ List.mem_cons_self

end Machine

end LittleMan
