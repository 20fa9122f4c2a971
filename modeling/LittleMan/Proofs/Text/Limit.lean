import LittleMan.Text.DecimalDigit
import LittleMan.Word
import Mathlib.Algebra.Group.Nat.Defs
import Mathlib.Tactic.Lemma

/-!
# Numbers within the limit

Numbers are converted up to a limit on the number of their digits. A number can be written exactly
if it is below the power of ten that the limit gives (`isWritable_iff`), so words and addresses can
be (`isWritable_of_isWord`, `isWritable_of_isAddress`), and that power of ten is a number that
cannot (`not_isWritable_pow`). A count that is read can be written again (`isWritable_of_integer?`):
each of its digits adds one place, and there are no more of them than the limit.
-/

namespace LittleMan

namespace Text

/-! ### Writing -/

section

variable {m n : Int}

/-- A number can be written if it does not have too many places. -/
theorem isWritable_iff : isWritable n = true ↔ n.natAbs < 10 ^ digitLimit := by
  unfold isWritable digits
  rw [decide_eq_true_iff, Nat.length_toDigits_le_iff (by decide) (by decide)]

/-- A number nearer to zero than one that can be written can be written. -/
lemma isWritable_of_natAbs_le (hn : isWritable n = true) (h : m.natAbs ≤ n.natAbs) :
    isWritable m = true :=
  isWritable_iff.mpr (Nat.lt_of_le_of_lt h (isWritable_iff.mp hn))

/-- A number of at most three digits can be written. -/
lemma isWritable_of_natAbs_lt (h : n.natAbs < 10 ^ 3) : isWritable n = true := by
  have hlength : (digits n.natAbs).length ≤ 3 :=
    (Nat.length_toDigits_le_iff (by decide) (by decide)).mpr h
  unfold isWritable
  exact decide_eq_true (Nat.le_trans hlength (by decide))

lemma isWritable_of_isWord (h : IsWord n) : isWritable n = true := by
  unfold IsWord at h
  exact isWritable_of_natAbs_lt (by omega)

lemma isWritable_of_isAddress (h : IsAddress n) : isWritable n = true := by
  unfold IsAddress at h
  exact isWritable_of_natAbs_lt (by omega)

/-- The first number with too many digits. -/
lemma not_isWritable_pow : isWritable ((10 ^ digitLimit : Nat) : Int) = false := by
  rw [Bool.eq_false_iff, Ne, isWritable_iff, Int.natAbs_natCast]
  exact Nat.lt_irrefl _

end

section

variable {ns : List Int} {t u : Text}

/-- A text with integers in it is written if all of them can be. -/
lemma withIntegers_eq_ok_iff :
    withIntegers ns t = .ok u ↔ (∀ n ∈ ns, isWritable n = true) ∧ t = u := by
  unfold withIntegers
  rw [← List.all_eq_true]
  split
  · next h => simp [h]
  · next h => simp [h]

lemma withIntegers_of_isWritable (h : ∀ n ∈ ns, isWritable n = true) :
    withIntegers ns t = .ok t :=
  withIntegers_eq_ok_iff.mpr ⟨h, rfl⟩

/-- It overflows if one of them cannot be. -/
lemma withIntegers_eq_error_iff {o : Overflow} :
    withIntegers ns t = .error o ↔ (∃ n ∈ ns, isWritable n = false) ∧ o = .writing := by
  have hsome : ns.all isWritable = false ↔ ∃ n ∈ ns, isWritable n = false := by
    rw [List.all_eq_false]
    simp only [Bool.not_eq_true]
  unfold withIntegers
  rw [← hsome]
  cases ns.all isWritable <;> simp [eq_comm]

end

/-! ### Reading -/

section

variable {t : Text} {c : Char} {d n value : Nat}

/-- A digit of any script is worth less than ten. -/
lemma lt_of_digitValue? (h : digitValue? c = some d) : d < 10 := by
  obtain ⟨first, hfirst, rfl⟩ := Option.map_eq_some_iff.mp h
  have hbounds := List.find?_some hfirst
  simp only [Bool.and_eq_true, decide_eq_true_iff] at hbounds
  omega

/-- A digit is no underscore, and so it counts. -/
lemma countP_cons_of_digitValue? (h : digitValue? c = some d) (t : Text) :
    (c :: t).countP (· != '_') = t.countP (· != '_') + 1 := by
  have hne : c ≠ '_' := by
    rintro rfl
    cases h.symm.trans (show digitValue? '_' = none by decide)
  exact List.countP_cons_of_pos (bne_iff_ne.mpr hne)

/-- Every digit behind a number adds one place to it. -/
lemma lt_of_continueCount? (h : continueCount? value t = some n) :
    n < (value + 1) * 10 ^ t.countP (· != '_') := by
  have hplace {value d : Nat} (k : Nat) (hd : d < 10) :
      (10 * value + d + 1) * 10 ^ k ≤ (value + 1) * 10 ^ (k + 1) := by
    rw [Nat.pow_succ', ← Nat.mul_assoc]
    exact Nat.mul_le_mul_right _ (by omega)
  fun_induction continueCount? value t with
  | case1 value =>
    obtain rfl := Option.some.inj h
    simp
  | case2 value c rest ih =>
    obtain ⟨d, hd, hrest⟩ := Option.bind_eq_some_iff.mp h
    have hcount : ('_' :: c :: rest).countP (· != '_') = rest.countP (· != '_') + 1 := by
      rw [List.countP_cons_of_neg (by decide), countP_cons_of_digitValue? hd]
    rw [hcount]
    exact Nat.lt_of_lt_of_le (ih d hrest) (hplace _ (lt_of_digitValue? hd))
  | case3 value c rest hpair ih =>
    obtain ⟨d, hd, hrest⟩ := Option.bind_eq_some_iff.mp h
    rw [countP_cons_of_digitValue? hd]
    exact Nat.lt_of_lt_of_le (ih d hrest) (hplace _ (lt_of_digitValue? hd))

/-- A count has no more places than digits. -/
lemma lt_of_count? (h : count? t = some n) : n < 10 ^ t.countP (· != '_') := by
  cases t with
  | nil => cases h
  | cons c t =>
    obtain ⟨d, hd, hrest⟩ := Option.bind_eq_some_iff.mp h
    have hlt := lt_of_digitValue? hd
    rw [countP_cons_of_digitValue? hd, Nat.pow_succ']
    exact Nat.lt_of_lt_of_le (lt_of_continueCount? hrest) (Nat.mul_le_mul_right _ (by omega))

/-- A count that is read is below the limit. -/
lemma lt_of_boundedCount? (h : boundedCount? t = some n) : n < 10 ^ digitLimit := by
  unfold boundedCount? at h
  split at h
  · next hlength =>
    exact Nat.lt_of_lt_of_le (lt_of_count? h) (Nat.pow_le_pow_right (by decide) hlength)
  · cases h

/-- A signed count that is read can be written. -/
theorem isWritable_of_integer? {n : Int} (h : integer? t = some n) : isWritable n = true := by
  rw [isWritable_iff]
  unfold integer? signed? at h
  split at h
  all_goals
    obtain ⟨k, hk, rfl⟩ := Option.map_eq_some_iff.mp h
    have hlt := lt_of_boundedCount? hk
    rwa [show (_ : Int).natAbs = k by simp]

end

end Text

end LittleMan
