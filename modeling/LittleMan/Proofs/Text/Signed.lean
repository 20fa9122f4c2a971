import LittleMan.Proofs.Text.Refill
import LittleMan.Proofs.Text.Written
import LittleMan.Text.DecimalDigit

/-!
# Numbers with a sign

The toolkit writes numbers with a sign into fields, and it reads signed counts from the command
line. The reader takes the digits from left to right, and digits of ASCII are worth in it what they
are worth in a numeral (`count?_of_isNumeralOf`). So a numeral reads as its number unless it has too
many digits (`integer?_of_isNumeralOf`), and a number in a field reads as the number, be it negative
or too long for the field (`signed?_zeroPadded`), with a reader that does not mind how many digits
there are. Between blanks it can be told from what is around it (`isField_zeroPadded`).
-/

namespace LittleMan

namespace Text

section

variable {t : Text} {n : Nat}

/-- A digit of ASCII has its value. -/
lemma digitValue?_of_isDigit {c : Char} (h : c.isDigit = true) :
    digitValue? c = some (c.toNat - '0'.toNat) := by
  obtain ⟨hlow, hhigh⟩ := toNat_of_isDigit h
  have hfirst : (decide (0x30 ≤ c.toNat) && decide (c.toNat < 0x30 + 10)) = true := by
    simp only [Bool.and_eq_true, decide_eq_true_iff]
    omega
  -- the digits of ASCII come first in the table
  have hfind : (zeroDigits.find? fun first => first ≤ c.toNat && c.toNat < first + 10) =
      some 0x30 :=
    List.find?_cons_of_pos hfirst
  unfold digitValue?
  rw [hfind]
  rfl

/-- Digits of ASCII behind a number go on with it as in a numeral. -/
lemma continueCount?_of_isDigit (value : Nat) (h : ∀ c ∈ t, c.isDigit = true) :
    continueCount? value t = some (Nat.ofDigitChars 10 t value) := by
  induction t generalizing value with
  | nil => rfl
  | cons c t ih =>
    obtain ⟨hc, ht⟩ := List.forall_mem_cons.mp h
    have hne : c ≠ '_' := by
      rintro rfl
      exact absurd hc (by decide)
    rw [continueCount?, digitValue?_of_isDigit hc]
    · exact ih _ ht
    · exact fun _ _ heq _ => hne heq

/-- A numeral reads as its number. -/
lemma count?_of_isNumeralOf (h : IsNumeralOf n t) : count? t = some n := by
  have hdigits := h.isDigit
  have hvalue := h.digitsValue
  cases t with
  | nil => exact absurd rfl h.ne_nil
  | cons c t =>
    obtain ⟨hc, ht⟩ := List.forall_mem_cons.mp hdigits
    rw [count?, digitValue?_of_isDigit hc]
    refine (continueCount?_of_isDigit _ ht).trans (congrArg some ?_)
    rw [← hvalue, digitsValue, Nat.ofDigitChars_cons, Nat.mul_zero, Nat.zero_add]

/-- Nothing is taken from the ends of a text without blanks. -/
lemma trimCount_eq_self (h : ∀ c ∈ t, isBlank c = false) :
    dropEndWhile isCountBlank (t.dropWhile isCountBlank) = t := by
  have hcount {s : Text} (hs : s ⊆ t) : s.dropWhile isCountBlank = s := by
    cases s with
    | nil => rfl
    | cons c s =>
      refine List.dropWhile_cons_of_neg ?_
      rw [isCountBlank, h c (hs List.mem_cons_self), Bool.false_and]
      exact Bool.false_ne_true
  unfold dropEndWhile
  rw [hcount (List.Subset.refl t), hcount fun c hc => List.mem_reverse.mp hc, List.reverse_reverse]

/-- A run of digits has no sign. -/
lemma signed?_of_isDigit (unsigned? : Text → Option Nat) (h : ∀ c ∈ t, c.isDigit = true) :
    signed? unsigned? t = (unsigned? t).map Int.ofNat := by
  unfold signed?
  rw [trimCount_eq_self fun c hc => isBlank_of_isDigit (h c hc)]
  split
  · exact absurd (h '-' List.mem_cons_self) (by decide)
  · exact absurd (h '+' List.mem_cons_self) (by decide)
  · rfl

/-- A numeral reads as its number, unless it has too many digits. -/
theorem integer?_of_isNumeralOf (h : IsNumeralOf n t) :
    integer? t = if t.length ≤ digitLimit then some (n : Int) else none := by
  have hcount : t.countP (· != '_') = t.length := by
    refine List.countP_eq_length.mpr fun c hc => bne_iff_ne.mpr ?_
    rintro rfl
    exact absurd (h.isDigit '_' hc) (by decide)
  unfold integer?
  rw [signed?_of_isDigit _ h.isDigit]
  unfold boundedCount?
  rw [hcount]
  split
  · rw [count?_of_isNumeralOf h]
    rfl
  · rfl

end

/-! ### Numbers in fields -/

section

variable (width : Nat) (n : Int)

/-- What stands in a field: a numeral, with a minus sign in front if the number is negative. -/
lemma zeroPadded_cases : (n < 0 ∧ ∃ t, IsNumeralOf n.natAbs t ∧ zeroPadded width n = '-' :: t) ∨
    (0 ≤ n ∧ IsNumeralOf n.natAbs (zeroPadded width n)) := by
  unfold zeroPadded
  split
  · next h => exact .inl ⟨h, _, ⟨_, rfl⟩, rfl⟩
  · next h => exact .inr ⟨Int.not_lt.mp h, ⟨_, rfl⟩⟩

/-- There is something in a field, and no blank. -/
lemma isField_zeroPadded : IsField (zeroPadded width n) := by
  obtain ⟨-, t, ht, heq⟩ | ⟨-, ht⟩ := zeroPadded_cases width n
  · rw [heq]
    exact ⟨List.cons_ne_nil _ _, List.forall_mem_cons.mpr
      ⟨by decide, fun c hc => isBlank_of_isDigit (ht.isDigit c hc)⟩⟩
  · exact ⟨ht.ne_nil, fun c hc => isBlank_of_isDigit (ht.isDigit c hc)⟩

/-- A number in a field reads as the number, whatever its sign and its size. -/
theorem signed?_zeroPadded : signed? count? (zeroPadded width n) = some n := by
  obtain ⟨hneg, t, ht, heq⟩ | ⟨hnonneg, ht⟩ := zeroPadded_cases width n
  · unfold signed?
    rw [trimCount_eq_self (isField_zeroPadded width n).not_blank, heq]
    change (count? t).map (fun k : Nat => -(k : Int)) = some n
    rw [count?_of_isNumeralOf ht, Option.map_some, Option.some_inj]
    omega
  · rw [signed?_of_isDigit count? ht.isDigit, count?_of_isNumeralOf ht, Option.map_some,
      Option.some_inj]
    change ((n.natAbs : Nat) : Int) = n
    omega

end

end Text

end LittleMan
