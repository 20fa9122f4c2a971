import LittleMan.Change
import Mathlib.Data.List.Basic

/-!
# Snapshots and the changes between them

The changes between two snapshots are the places where both hold a word and the words differ
(`mem_diff_iff`), in ascending order (`pairwise_diff`). Between snapshots of one length they are
all that there is to tell: put into the first snapshot they give the second (`apply_diff`), so there
are none exactly between equal ones (`diff_eq_nil_iff`). Seen from the second snapshot they are the
same changes with old and new exchanged (`diff_reversed`).

Each of these is proved for the changes from an arbitrary address on, by induction on the words of
the first snapshot.
-/

namespace LittleMan

namespace Change

/-- The change seen from the later snapshot. -/
def reversed (c : Change) : Change :=
  ⟨c.address, c.new, c.old⟩

/-! ### From an address on -/

/-- The changes from an address on are the later places at which the words differ. -/
lemma mem_between_iff (start : Nat) (before after : List Int) (c : Change) :
    c ∈ between start before after ↔ ∃ k, c.address = start + k ∧
      before[k]? = some c.old ∧ after[k]? = some c.new ∧ c.old ≠ c.new := by
  induction before generalizing start after with
  | nil => simp [between]
  | cons old before ih =>
    cases after with
    | nil => simp [between]
    | cons new after =>
      -- a later place is the first one or a later place of the rest
      have hrest : c ∈ between (start + 1) before after ↔ ∃ k, c.address = start + (k + 1) ∧
          (old :: before)[k + 1]? = some c.old ∧ (new :: after)[k + 1]? = some c.new ∧
            c.old ≠ c.new := by
        rw [ih]
        simp only [List.getElem?_cons_succ, Nat.add_assoc, Nat.add_comm 1]
      have hsplit : (∃ k, c.address = start + k ∧ (old :: before)[k]? = some c.old ∧
          (new :: after)[k]? = some c.new ∧ c.old ≠ c.new) ↔
          (c = ⟨start, old, new⟩ ∧ old ≠ new) ∨ c ∈ between (start + 1) before after := by
        rw [hrest]
        constructor
        · rintro ⟨k, haddress, hold, hnew, hne⟩
          cases k with
          | zero =>
            obtain rfl : old = c.old := Option.some.inj hold
            obtain rfl : new = c.new := Option.some.inj hnew
            exact Or.inl ⟨by rw [← Nat.add_zero start, ← haddress], hne⟩
          | succ k => exact Or.inr ⟨k, haddress, hold, hnew, hne⟩
        · rintro (⟨rfl, hne⟩ | ⟨k, hk⟩)
          · exact ⟨0, rfl, rfl, rfl, hne⟩
          · exact ⟨k + 1, hk⟩
      rw [hsplit, between]
      split
      · next heq => simp [heq]
      · next hne => simp [hne]

/-- They are in ascending order. -/
lemma pairwise_between (start : Nat) (before after : List Int) :
    (between start before after).Pairwise fun c c' => c.address < c'.address := by
  induction before generalizing start after with
  | nil => exact List.Pairwise.nil
  | cons old before ih =>
    cases after with
    | nil => exact List.Pairwise.nil
    | cons new after =>
      have hrest := ih (start + 1) after
      rw [between]
      split
      · exact hrest
      · refine List.pairwise_cons.mpr ⟨?_, hrest⟩
        intro c hc
        obtain ⟨k, haddress, -⟩ := (mem_between_iff (start + 1) before after c).mp hc
        change start < c.address
        omega

/-- Seen from the later snapshot they are reversed. -/
lemma between_reversed (start : Nat) (before after : List Int) :
    between start after before = (between start before after).map reversed := by
  induction before generalizing start after with
  | nil => cases after <;> rfl
  | cons old before ih =>
    cases after with
    | nil => rfl
    | cons new after =>
      have hrest := ih (start + 1) after
      rw [between, between]
      by_cases heq : old = new
      · rw [if_pos heq, if_pos heq.symm, hrest]
      · rw [if_neg heq, if_neg (Ne.symm heq), hrest]
        rfl

/-- Put into a snapshot of which they concern the rest, they give the other snapshot there and
leave the front alone. -/
lemma apply_between (front : List Int) {before after : List Int}
    (hlength : before.length = after.length) :
    apply (front ++ before) (between front.length before after) = front ++ after := by
  induction before generalizing front after with
  | nil =>
    obtain rfl : after = [] := List.eq_nil_of_length_eq_zero hlength.symm
    rfl
  | cons old before ih =>
    cases after with
    | nil => cases hlength
    | cons new after =>
      have hrest : apply (front ++ new :: before) (between (front.length + 1) before after) =
          front ++ new :: after := by
        have hnext := ih (front ++ [new]) (Nat.succ.inj hlength)
        rwa [List.length_append, List.append_assoc, List.append_assoc] at hnext
      rw [between]
      split
      · next heq =>
        rw [heq]
        exact hrest
      · have hset : (front ++ old :: before).set front.length new = front ++ new :: before := by
          rw [List.set_append_right _ _ (Nat.le_refl _), Nat.sub_self, List.set_cons_zero]
        unfold apply at hrest ⊢
        rw [List.foldl_cons, hset]
        exact hrest

/-! ### From the first mailbox on -/

section

variable (before after : List Int)

/-- A change is a place at which both snapshots hold a word and the words differ. -/
theorem mem_diff_iff (c : Change) : c ∈ diff before after ↔
    before[c.address]? = some c.old ∧ after[c.address]? = some c.new ∧ c.old ≠ c.new := by
  unfold diff
  rw [mem_between_iff]
  constructor
  · rintro ⟨k, haddress, h⟩
    rw [Nat.zero_add] at haddress
    rwa [haddress]
  · intro h
    exact ⟨c.address, (Nat.zero_add c.address).symm, h⟩

/-- The changes are in ascending order. -/
theorem pairwise_diff : (diff before after).Pairwise fun c c' => c.address < c'.address :=
  pairwise_between 0 before after

/-- Between the snapshots in the other order they are the same changes, reversed. -/
theorem diff_reversed : diff after before = (diff before after).map reversed :=
  between_reversed 0 before after

end

section

variable {before after : List Int}

/-- Put into the first snapshot the changes give the second. -/
theorem apply_diff (hlength : before.length = after.length) :
    apply before (diff before after) = after :=
  apply_between [] hlength

/-- There is no change exactly between equal snapshots. -/
theorem diff_eq_nil_iff (hlength : before.length = after.length) :
    diff before after = [] ↔ before = after := by
  constructor
  · intro hnone
    have happly := apply_diff hlength
    rw [hnone] at happly
    exact happly
  · rintro rfl
    refine List.eq_nil_iff_forall_not_mem.mpr ?_
    intro c hc
    obtain ⟨hold, hnew, hne⟩ := (mem_diff_iff before before c).mp hc
    exact hne (Option.some.inj (hold.symm.trans hnew))

end

end Change

end LittleMan
