import LittleMan.Proofs.Change
import LittleMan.Proofs.Machine.Watching

/-!
# What a run stores

Running changes the memory only where a word is stored, and only by instructions that were completed
(`Completion.store?`). So the stores of a run, one after the other, tell the memory behind it: a
mailbox without a store keeps its word, and in any other one is the word of the last store to it
(`Memory.Reflects`). It does not matter how the run ends, nor that a program may store into its own
instructions, since the list of stores is read off the instructions as they were carried out.

The induction is over the completed instructions of the run (`completions_induction`). The changes
between the snapshots in front of the run and behind it are then exactly the stores that made a
difference (`Memory.Reflects.mem_diff_iff`), and `run_reflects` puts the two sides together.
-/

namespace LittleMan

/-- A word that an instruction put into a mailbox. -/
structure Store where
  address : Int
  word : Int
deriving DecidableEq, Repr

namespace Memory

/-- The memory `after` is what the stores, made one after the other, leave of the memory
`before`. -/
structure Reflects (before : Memory) (stores : List Store) (after : Memory) : Prop where
  /-- A mailbox without a store keeps its word. -/
  kept : ∀ a, (∀ s ∈ stores, s.address ≠ a) → after.read a = before.read a
  /-- Any other one holds the word of the last store to it. -/
  stored : ∀ earlier s later, stores = earlier ++ s :: later →
    (∀ s' ∈ later, s'.address ≠ s.address) → after.read s.address = .ok s.word

section

variable {before now after : Memory} {stores : List Store}

/-- Nothing is stored yet. -/
lemma Reflects.nil (before : Memory) : before.Reflects [] before where
  kept _ _ := rfl
  stored earlier s later heq := by
    have hne : earlier ++ s :: later ≠ [] := by simp
    exact absurd heq.symm hne

/-- One more word is stored. -/
lemma Reflects.concat (h : before.Reflects stores now) {s : Store}
    (hread : ∀ b, after.read b = if b = s.address then .ok s.word else now.read b) :
    before.Reflects (stores ++ [s]) after where
  kept a hnone := by
    have hlast : s.address ≠ a := hnone s (List.mem_append_right stores List.mem_cons_self)
    have hothers : ∀ s' ∈ stores, s'.address ≠ a := by
      intro s' hs'
      exact hnone s' (List.mem_append_left [s] hs')
    rw [hread, if_neg hlast.symm]
    exact h.kept a hothers
  stored earlier s' later heq hlater := by
    rcases Machine.eq_or_exists_of_append_singleton heq with ⟨-, rfl⟩ | ⟨rest, hstores, rfl⟩
    · rw [hread, if_pos rfl]
    · -- the last store went to another mailbox
      have hlast : s.address ≠ s'.address :=
        hlater s (List.mem_append_right rest List.mem_cons_self)
      have hothers : ∀ s'' ∈ rest, s''.address ≠ s'.address := by
        intro s'' hs''
        exact hlater s'' (List.mem_append_left [s] hs'')
      rw [hread, if_neg hlast.symm]
      exact h.stored earlier s' rest hstores hothers

/-- Of the stores to a mailbox there is a last one. -/
lemma exists_last_store {a : Int} (h : ∃ s ∈ stores, s.address = a) :
    ∃ earlier s later, stores = earlier ++ s :: later ∧ s.address = a ∧
      ∀ s' ∈ later, s'.address ≠ a := by
  induction stores with
  | nil =>
    obtain ⟨s, hs, -⟩ := h
    cases hs
  | cons first rest ih =>
    by_cases hrest : ∃ s ∈ rest, s.address = a
    · obtain ⟨earlier, s, later, rfl, haddress, hnone⟩ := ih hrest
      exact ⟨first :: earlier, s, later, rfl, haddress, hnone⟩
    · obtain ⟨s, hs, rfl⟩ := h
      have hfirst : s = first := by
        apply (List.mem_cons.mp hs).resolve_right
        intro hs
        exact hrest ⟨s, hs, rfl⟩
      subst hfirst
      exact ⟨[], s, rest, rfl, rfl, fun s' hs' heq => hrest ⟨s', hs', heq⟩⟩

/-- What stores leave in their mailboxes does not depend on the memory before. -/
lemma Reflects.read_eq {before' after' : Memory} (h : before.Reflects stores after)
    (h' : before'.Reflects stores after') {a : Int} (hstored : ∃ s ∈ stores, s.address = a) :
    after.read a = after'.read a := by
  obtain ⟨earlier, s, later, heq, rfl, hlast⟩ := exists_last_store hstored
  rw [h.stored earlier s later heq hlast, h'.stored earlier s later heq hlast]

/-- The word of a mailbox stands in the snapshot at its address. -/
lemma getElem?_snapshot_iff {m : Memory} (hlength : m.cells.length = mailboxCount) (k : Nat)
    (w : Int) : m.snapshot[k]? = some w ↔ m.read k = .ok w := by
  have hcount : m.cells.length = 100 := hlength
  rw [read_eq_ok_iff, Int.toNat_natCast, List.getD_eq_getElem?_getD]
  unfold snapshot IsAddress
  constructor
  · intro h
    obtain ⟨hlt, -⟩ := List.getElem?_eq_some_iff.mp h
    rw [h, Option.getD_some]
    exact ⟨by omega, rfl⟩
  · rintro ⟨haddress, hw⟩
    have hlt : k < m.cells.length := by omega
    rw [List.getElem?_eq_getElem hlt, Option.getD_some] at hw
    rw [List.getElem?_eq_getElem hlt, hw]

/-- The changes that stores made are those of the stored words that differ from the words before. -/
theorem Reflects.mem_diff_iff (h : before.Reflects stores after)
    (hbefore : before.cells.length = mailboxCount) (hafter : after.cells.length = mailboxCount)
    (c : Change) : c ∈ Change.diff before.snapshot after.snapshot ↔
      (∃ s ∈ stores, s.address = c.address) ∧ before.read c.address = .ok c.old ∧
        after.read c.address = .ok c.new ∧ c.old ≠ c.new := by
  rw [Change.mem_diff_iff, getElem?_snapshot_iff hbefore, getElem?_snapshot_iff hafter]
  constructor
  · rintro ⟨hold, hnew, hne⟩
    have hstore : ∃ s ∈ stores, s.address = c.address := by
      by_contra hnone
      have hkept := h.kept c.address fun s hs heq => hnone ⟨s, hs, heq⟩
      rw [hold, hnew] at hkept
      exact hne (Except.ok.inj hkept).symm
    exact ⟨hstore, hold, hnew, hne⟩
  · rintro ⟨-, hold, hnew, hne⟩
    exact ⟨hold, hnew, hne⟩

end

end Memory

namespace Machine

/-! ### One completed instruction -/

namespace Completion

/-- What the instruction stored, if it stores: the accumulator, in its mailbox. -/
def store? (c : Completion) : Option Store :=
  match c.instruction with
  | .sto a => some ⟨a, c.before.registers.acc⟩
  | _ => none

variable (c : Completion)

/-- An instruction that does not store leaves the memory alone. -/
lemma memory_of_store?_eq_none (h : c.store? = none) : c.after.memory = c.before.memory := by
  have hne : ∀ a, c.before.next? ≠ some (.sto a) := by
    intro a ha
    have hsto : c.instruction = .sto a := Option.some.inj (c.carried.symm.trans ha)
    unfold store? at h
    rw [hsto] at h
    cases h
  have hmemory := (step_of_ne_sto hne).2
  rwa [c.step] at hmemory

/-- An instruction that stores puts its word into its mailbox. -/
lemma memory_of_store?_eq_some {s : Store} (h : c.store? = some s) :
    IsAddress s.address ∧ c.after.memory = { c.before.memory with
      cells := c.before.memory.cells.set s.address.toNat s.word } := by
  obtain ⟨a, hsto, rfl⟩ : ∃ a, c.instruction = .sto a ∧ s = ⟨a, c.before.registers.acc⟩ := by
    unfold store? at h
    split at h
    · next a ha => exact ⟨a, ha, (Option.some.inj h).symm⟩
    · cases h
  have carried : c.before.next? = some (.sto a) := hsto ▸ c.carried
  obtain ⟨-, hmemory, houtcome⟩ := step_of_sto c.running carried
  unfold memoryAfter at hmemory
  rw [c.step] at hmemory houtcome
  have hcases := c.before.memory.write_cases a c.before.registers.acc
  generalize c.before.memory.write a c.before.registers.acc = written at hmemory houtcome hcases
  cases hcases with
  | noMailbox => cases houtcome
  | notStorable => cases houtcome
  | objected => cases houtcome
  | written address => exact ⟨address, hmemory⟩

/-- No instruction takes a mailbox away. -/
lemma length_cells_after : c.after.memory.cells.length = c.before.memory.cells.length := by
  cases h : c.store? with
  | none => rw [c.memory_of_store?_eq_none h]
  | some s => rw [(c.memory_of_store?_eq_some h).2, List.length_set]

end Completion

/-! ### Runs -/

/-- The stores of the instructions that a machine completes within a budget. -/
def stores (budget : Nat) (m : Machine) : List Store :=
  (completions budget m).filterMap Completion.store?

/-- Completed instructions lead from one machine to another one: they are all that was counted, and
their stores are all that was done to the memory. -/
structure IsToldBy (before : Machine) (done : List Completion) (now : Machine) : Prop where
  length_cells : now.memory.cells.length = mailboxCount
  cycles : now.registers.cycles = before.registers.cycles + done.length
  memory : before.memory.Reflects (done.filterMap Completion.store?) now.memory

section

variable {m before : Machine} {done : List Completion}

/-- One more instruction is told with its store. -/
lemma IsToldBy.concat {c : Completion} (h : before.IsToldBy done c.before) :
    before.IsToldBy (done ++ [c]) c.after where
  length_cells := c.length_cells_after.trans h.length_cells
  cycles := by
    have hcounted := (stop_of_step c.running c.step).2
    rw [hcounted, h.cycles, List.length_append, List.length_singleton]
    push_cast
    omega
  memory := by
    have hreflects := h.memory
    rw [List.filterMap_append]
    cases hstore : c.store? with
    | none =>
      have hnone : [c].filterMap Completion.store? = [] := by simp [hstore]
      rw [hnone, List.append_nil, c.memory_of_store?_eq_none hstore]
      exact hreflects
    | some s =>
      have hsome : [c].filterMap Completion.store? = [s] := by simp [hstore]
      obtain ⟨haddress, hmemory⟩ := c.memory_of_store?_eq_some hstore
      rw [hsome, hmemory]
      exact hreflects.concat (Memory.read_set h.length_cells haddress s.word)

/-- However a run ends, the instructions that it completed tell what it did to the memory. -/
theorem isToldBy_run (hlength : m.memory.cells.length = mailboxCount) (n : Int) :
    m.IsToldBy (completions n.toNat m) (m.run n).1 := by
  apply completions_induction
  · intro done c h
    exact h.concat
  · intro done now f hf h
    have hregisters := (registers_of_step_error hf).2
    have hmemory := (data_of_step_error hf).1
    exact ⟨hmemory ▸ h.length_cells, hregisters.trans h.cycles, hmemory ▸ h.memory⟩
  · intro done now e h
    exact ⟨h.length_cells, h.cycles, h.memory⟩
  · exact ⟨hlength, by simp, .nil m.memory⟩

end

/-- Running changes the memory by stores alone. Every machine that a session leads to has a hundred
mailboxes. From any machine with a hundred mailboxes, whatever its registers hold and however the
run ends, each counted instruction is on the list of the completed ones, a mailbox that none of them
stored into keeps its word, every other one ends with the word of the last store to it, and the
changes between the two snapshots are the stored words that differ from the words before, in
ascending order of their mailboxes. Between any snapshots of one length the changes lead from the
first to the second, are the same in the other direction with old and new exchanged, and are none
exactly if the snapshots are equal. -/
theorem run_reflects :
    (∀ requests : List Request, (session {} requests).memory.cells.length = mailboxCount) ∧
    (∀ (m : Machine) (n : Int), m.memory.cells.length = mailboxCount →
      (m.run n).1.registers.cycles = m.registers.cycles + (completions n.toNat m).length ∧
      m.memory.Reflects (stores n.toNat m) (m.run n).1.memory ∧
      (∀ c : Change, c ∈ Change.diff m.memory.snapshot (m.run n).1.memory.snapshot ↔
        (∃ s ∈ stores n.toNat m, s.address = c.address) ∧ m.memory.read c.address = .ok c.old ∧
          (m.run n).1.memory.read c.address = .ok c.new ∧ c.old ≠ c.new) ∧
      (Change.diff m.memory.snapshot (m.run n).1.memory.snapshot).Pairwise
        fun c c' => c.address < c'.address) ∧
    ∀ before after : List Int, before.length = after.length →
      Change.apply before (Change.diff before after) = after ∧
      Change.diff after before = (Change.diff before after).map Change.reversed ∧
      (Change.diff before after = [] ↔ before = after) := by
  refine ⟨?_, ?_, ?_⟩
  · intro requests
    exact (holdsWords_of_completes (.none (session {} requests))).length_eq
  · intro m n hlength
    have htold := isToldBy_run hlength n
    have hdiff := htold.memory.mem_diff_iff hlength htold.length_cells
    exact ⟨htold.cycles, htold.memory, hdiff, Change.pairwise_diff _ _⟩
  · intro before after hlength
    exact ⟨Change.apply_diff hlength, Change.diff_reversed before after,
      Change.diff_eq_nil_iff hlength⟩

/-- A machine with a program that stores the word of a store over the halt that comes next, and so
stores the answer twice. -/
def overwriting : Machine :=
  { memory := { cells := padded [506, 303, 507, 0, 308, 0, 308, 42] } }

/-- The overwritten halt is a store by the time it is carried out. -/
theorem run_reflects_overwriting :
    stores 9 overwriting = [⟨3, 308⟩, ⟨8, 42⟩] ++ ⟨8, 42⟩ :: [] ∧
    (overwriting.run 9).1.memory.read 8 = .ok 42 ∧
    (overwriting.run 9).1.memory.read 5 = overwriting.memory.read 5 ∧
    ((⟨3, 0, 308⟩ : Change) ∈
      Change.diff overwriting.memory.snapshot (overwriting.run 9).1.memory.snapshot ↔
        (∃ s ∈ stores 9 overwriting, s.address = 3) ∧ overwriting.memory.read 3 = .ok 0 ∧
          (overwriting.run 9).1.memory.read 3 = .ok 308 ∧ (0 : Int) ≠ 308) ∧
    Change.apply [1, 2] (Change.diff [1, 2] [1, 3]) = [1, 3] := by
  obtain ⟨-, hruns, hdiffs⟩ := run_reflects
  have hstores : stores 9 overwriting = [⟨3, 308⟩, ⟨8, 42⟩] ++ ⟨8, 42⟩ :: [] := by decide
  obtain ⟨-, hreflects, hdiff, -⟩ := hruns overwriting 9 (by decide)
  have hother : ∀ s ∈ stores 9 overwriting, s.address ≠ 5 := by
    rw [hstores]
    decide
  have hlast := hreflects.stored [⟨3, 308⟩, ⟨8, 42⟩] ⟨8, 42⟩ [] hstores (by decide)
  exact ⟨hstores, hlast, hreflects.kept 5 hother, hdiff ⟨3, 0, 308⟩, (hdiffs [1, 2] [1, 3] rfl).1⟩

end Machine

end LittleMan
