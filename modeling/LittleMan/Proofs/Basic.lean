import LittleMan.Word
import Mathlib.Data.List.GetD
import Mathlib.Data.List.Nodup

/-!
# Results, tables and images

Some kinds of data occur in every part of the toolkit: the result of a check, which is a value or a
cause; the table, a list of pairs in which the first pair with a key counts; and the words of a
program, padded to fill the mailboxes. The lemmas of this module say when a mapped result is a
value and when a list of results is one, what is found in a table, and how long a padded program is
and what it holds where.
-/

namespace LittleMan

/-- A mapped result is a value exactly when the result is one that the map takes there. -/
lemma map_eq_ok_iff {ε α β : Type} {f : α → β} {x : Except ε α} {b : β} :
    f <$> x = .ok b ↔ ∃ a, x = .ok a ∧ f a = b := by
  cases x with
  | error e => simp [Functor.map, Except.map]
  | ok a => simp [Functor.map, Except.map]

/-- A mapped result has the cause of the result. -/
lemma map_eq_error_iff {ε α β : Type} {f : α → β} {x : Except ε α} {e : ε} :
    f <$> x = .error e ↔ x = .error e := by
  cases x with
  | error e => simp [Functor.map, Except.map]
  | ok a => simp [Functor.map, Except.map]

/-- A result that depends on another one is a value exactly when both are. -/
lemma bind_eq_ok_iff {ε α β : Type} {f : α → Except ε β} {x : Except ε α} {b : β} :
    x >>= f = .ok b ↔ ∃ a, x = .ok a ∧ f a = .ok b := by
  cases x with
  | error e => simp [bind, Except.bind]
  | ok a => simp [bind, Except.bind]

/-- It has the cause of the other one, or its own. -/
lemma bind_eq_error_iff {ε α β : Type} {f : α → Except ε β} {x : Except ε α} {e : ε} :
    x >>= f = .error e ↔ x = .error e ∨ ∃ a, x = .ok a ∧ f a = .error e := by
  cases x with
  | error e => simp [bind, Except.bind]
  | ok a => simp [bind, Except.bind]

/-- Causes that are mapped do not change a value. -/
lemma mapError_eq_ok_iff {ε δ α : Type} {g : ε → δ} {x : Except ε α} {a : α} :
    x.mapError g = .ok a ↔ x = .ok a := by
  cases x with
  | error e => simp [Except.mapError]
  | ok b => simp [Except.mapError]

/-- A mapped cause comes from a cause. -/
lemma mapError_eq_error_iff {ε δ α : Type} {g : ε → δ} {x : Except ε α} {d : δ} :
    x.mapError g = .error d ↔ ∃ e, x = .error e ∧ g e = d := by
  cases x with
  | error e => simp [Except.mapError]
  | ok b => simp [Except.mapError]

/-- Results are collected if all of them are values. -/
lemma mapM_id_eq_ok_iff {ε α : Type} {xs : List (Except ε α)} {ys : List α} :
    xs.mapM id = .ok ys ↔ xs = ys.map .ok := by
  induction xs generalizing ys with
  | nil => cases ys <;> simp [pure, Except.pure]
  | cons x xs ih =>
    rw [List.mapM_cons]
    constructor
    · intro h
      cases x with
      | error e => cases h
      | ok y =>
        cases hrest : xs.mapM id with
        | error e =>
          rw [hrest] at h
          cases h
        | ok rest =>
          rw [hrest] at h
          obtain rfl := Except.ok.inj h
          rw [ih.mp hrest]
          rfl
    · intro hxs
      cases ys with
      | nil => cases hxs
      | cons y ys =>
        obtain ⟨rfl, hrest⟩ := List.cons.inj hxs
        change (xs.mapM id).bind _ = _
        rw [ih.mpr hrest]
        rfl

/-- Otherwise the first cause is told. -/
lemma mapM_id_eq_error_iff {ε α : Type} {xs : List (Except ε α)} {e : ε} :
    xs.mapM id = .error e ↔ ∃ before after, xs = before ++ .error e :: after ∧
      ∀ x ∈ before, ∃ a, x = .ok a := by
  induction xs with
  | nil => simp [pure, Except.pure]
  | cons x xs ih =>
    rw [List.mapM_cons]
    constructor
    · intro h
      cases x with
      | error e' =>
        obtain rfl : e' = e := Except.error.inj h
        exact ⟨[], xs, rfl, nofun⟩
      | ok y =>
        cases hrest : xs.mapM id with
        | ok rest =>
          rw [hrest] at h
          cases h
        | error e' =>
          rw [hrest] at h
          obtain rfl : e' = e := Except.error.inj h
          obtain ⟨before, after, rfl, hbefore⟩ := ih.mp hrest
          exact ⟨.ok y :: before, after, rfl, List.forall_mem_cons.mpr ⟨⟨y, rfl⟩, hbefore⟩⟩
    · rintro ⟨before, after, hxs, hbefore⟩
      cases before with
      | nil =>
        obtain ⟨rfl, rfl⟩ := List.cons.inj hxs
        rfl
      | cons x' before =>
        obtain ⟨rfl, hrest⟩ := List.cons.inj hxs
        obtain ⟨⟨y, rfl⟩, hbefore'⟩ := List.forall_mem_cons.mp hbefore
        change (xs.mapM id).bind _ = _
        rw [ih.mpr ⟨before, after, hrest, hbefore'⟩]
        rfl

/-- A list of values is read exactly if each of them is. -/
lemma mapM_eq_ok_iff {ε α β : Type} {f : α → Except ε β} {xs : List α} {ys : List β} :
    xs.mapM f = .ok ys ↔ List.Forall₂ (fun x y => f x = .ok y) xs ys := by
  have hmap : xs.mapM f = (xs.map f).mapM id := by
    rw [List.mapM_map]
    rfl
  rw [hmap, mapM_id_eq_ok_iff, ← List.forall₂_eq_eq_eq, List.forall₂_map_left_iff,
    List.forall₂_map_right_iff]

/-- Otherwise the first entry that is not read tells the cause. -/
lemma mapM_eq_error_iff {ε α β : Type} {f : α → Except ε β} {xs : List α} {e : ε} :
    xs.mapM f = .error e ↔ ∃ before x after, xs = before ++ x :: after ∧
      (∀ b ∈ before, ∃ y, f b = .ok y) ∧ f x = .error e := by
  have hmap : xs.mapM f = (xs.map f).mapM id := by
    rw [List.mapM_map]
    rfl
  rw [hmap, mapM_id_eq_error_iff]
  constructor
  · rintro ⟨values, rest, hxs, hvalues⟩
    obtain ⟨before, behind, rfl, rfl, hbehind⟩ := List.map_eq_append_iff.mp hxs
    obtain ⟨x, after, rfl, hx, -⟩ := List.map_eq_cons_iff.mp hbehind
    exact ⟨before, x, after, rfl, fun b hb => hvalues _ (List.mem_map_of_mem hb), hx⟩
  · rintro ⟨before, x, after, rfl, hbefore, hx⟩
    refine ⟨before.map f, after.map f, ?_, List.forall_mem_map.mpr hbefore⟩
    rw [List.map_append, List.map_cons, hx]

/-- A list is read exactly if each entry is. -/
lemma exists_mapM_eq_ok_iff {ε α β : Type} {f : α → Except ε β} {xs : List α} :
    (∃ ys, xs.mapM f = .ok ys) ↔ ∀ x ∈ xs, ∃ y, f x = .ok y := by
  constructor
  · rintro ⟨ys, hys⟩ x hx
    have hread := mapM_eq_ok_iff.mp hys
    clear hys
    induction hread with
    | nil => cases hx
    | cons hentry _ ih =>
      rcases List.mem_cons.mp hx with rfl | hx
      · exact ⟨_, hentry⟩
      · exact ih hx
  · intro hall
    cases hread : xs.mapM f with
    | ok ys => exact ⟨ys, rfl⟩
    | error e =>
      obtain ⟨before, x, after, rfl, -, hx⟩ := mapM_eq_error_iff.mp hread
      obtain ⟨y, hy⟩ := hall x (List.mem_append_right before List.mem_cons_self)
      cases hx.symm.trans hy

/-- Integers that are natural numbers within a bound, one for each entry of a list, are a list of
natural numbers within the bound. -/
lemma forall₂_natCast_iff {α : Type} {P : Nat → α → Prop} {bound : Nat} {xs : List α}
    {ws : List Int} :
    List.Forall₂ (fun x (w : Int) => ∃ n : Nat, n ≤ bound ∧ P n x ∧ w = n) xs ws ↔
      ∃ ns : List Nat, (∀ n ∈ ns, n ≤ bound) ∧ List.Forall₂ P ns xs ∧
        ws = ns.map fun n : Nat => (n : Int) := by
  constructor
  · intro h
    induction h with
    | nil => exact ⟨[], nofun, .nil, rfl⟩
    | cons hentry _ ih =>
      obtain ⟨n, hn, hP, rfl⟩ := hentry
      obtain ⟨ns, hns, hPs, rfl⟩ := ih
      exact ⟨n :: ns, List.forall_mem_cons.mpr ⟨hn, hns⟩, .cons hP hPs, rfl⟩
  · rintro ⟨ns, hns, hPs, rfl⟩
    induction hPs with
    | nil => exact .nil
    | cons hP _ ih =>
      obtain ⟨hn, hns⟩ := List.forall_mem_cons.mp hns
      exact .cons ⟨_, hn, hP, rfl⟩ (ih hns)

/-- What is found in a table stands there. -/
lemma mem_of_lookup_eq_some {α β : Type} [BEq α] [LawfulBEq α] {table : List (α × β)} {k : α}
    {v : β} (h : table.lookup k = some v) : (k, v) ∈ table := by
  obtain ⟨front, rest, rfl, -⟩ := List.lookup_eq_some_iff.mp h
  exact List.mem_append_right front List.mem_cons_self

/-- In a table without a repeated key every pair is found. -/
lemma lookup_eq_some_iff_mem {α β : Type} [BEq α] [LawfulBEq α] {table : List (α × β)} {k : α}
    {v : β} (hkeys : (table.map Prod.fst).Nodup) : table.lookup k = some v ↔ (k, v) ∈ table := by
  refine ⟨mem_of_lookup_eq_some, fun hmem => ?_⟩
  obtain ⟨front, rest, rfl⟩ := List.append_of_mem hmem
  refine List.lookup_eq_some_iff.mpr ⟨front, rest, rfl, fun p hp => ?_⟩
  rw [List.map_append, List.map_cons] at hkeys
  have hdisjoint := List.disjoint_of_nodup_append hkeys
  refine bne_iff_ne.mpr fun hk => ?_
  exact hdisjoint (List.mem_map_of_mem hp) (hk ▸ List.mem_cons_self)

/-- Up to a hundred words are padded to a hundred. -/
lemma length_padded {words : List Int} (h : words.length ≤ mailboxCount) :
    (padded words).length = mailboxCount := by
  unfold padded
  rw [List.length_append, List.length_replicate]
  omega

/-- A hundred words need no zeros. -/
lemma padded_eq_self {words : List Int} (h : words.length = mailboxCount) :
    padded words = words := by
  unfold padded
  rw [h, Nat.sub_self, List.replicate_zero, List.append_nil]

/-- A padded program has the words of the program first. -/
lemma getElem?_padded_of_lt {words : List Int} {k : Nat} (h : k < words.length) :
    (padded words)[k]? = words[k]? :=
  List.getElem?_append_left h

/-- A padded program has zeros behind the words of the program. -/
lemma getElem?_padded_of_le {words : List Int} {k : Nat} (hle : words.length ≤ k)
    (hlt : k < mailboxCount) : (padded words)[k]? = some 0 := by
  unfold padded
  rw [List.getElem?_append_right hle, List.getElem?_replicate, if_pos (by omega)]

/-- So it holds what the words say, or zero. -/
lemma getD_padded (words : List Int) (k : Nat) : (padded words).getD k 0 = words.getD k 0 := by
  unfold padded
  by_cases h : k < words.length
  · rw [List.getD_append _ _ _ _ h]
  · have hle : words.length ≤ k := Nat.le_of_not_lt h
    rw [List.getD_append_right _ _ _ _ hle, List.getD_eq_default _ _ hle,
      List.getD_eq_getElem?_getD, List.getElem?_getD_replicate_default_eq]

end LittleMan
