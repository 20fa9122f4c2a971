import LittleMan.Proofs.Text.Fields
import LittleMan.Proofs.Text.Plain
import Mathlib.Data.List.Induction
import Mathlib.Tactic.Lemma

/-!
# How a text may be written

A reader forgives some of the ways in which a text is written: blanks around it do not count, and
neither do zeros in front of a number. What it forgives is told here without the reader. A text is
in blanks (`IsInBlanks`) when there are only blanks around it, and a numeral of a number
(`IsNumeralOf`) has nothing but zeros in front of its digits.

Both readers take exactly these forms: a text without blanks at its ends is what is left of the
texts in which it is in blanks (`strip_eq_iff`), and a number is the value of its numerals
(`value?_eq_some_iff`), also in blanks (`value?_strip_eq_some_iff`), and what those of them read as
that do not have too many digits (`numeral?_eq_some_iff`, `numeral?_strip_eq_some_iff`); a run of
digits that has too many is not read (`numeral?_strip_eq_some_error_iff`). Blanks around a text that
is split at a separator end up around its first and last part, so that they make no difference to
the parts without the blanks at their ends (`map_strip_splitOn`).
-/

namespace LittleMan

namespace Text

/-! ### Blanks around a text -/

/-- The text has no blank at an end. -/
structure IsTrimmed (t : Text) : Prop where
  front : ∀ c ∈ t.head?, isBlank c = false
  back : ∀ c ∈ t.getLast?, isBlank c = false

/-- The second text is the first one with blanks around it. -/
def IsInBlanks (core t : Text) : Prop :=
  ∃ front back, t = front ++ (core ++ back) ∧ (∀ c ∈ front, isBlank c = true) ∧
    ∀ c ∈ back, isBlank c = true

section

variable {core t : Text}

/-- A text that does not begin with a blank has no blanks to lose at its front. -/
lemma dropWhile_eq_self_of_head? (h : ∀ c ∈ t.head?, isBlank c = false) :
    t.dropWhile isBlank = t := by
  cases t with
  | nil => rfl
  | cons c t => exact List.dropWhile_cons_of_neg (by rw [h c rfl]; decide)

/-- The first character that is left when blanks are taken from the front of a text is no blank. -/
lemma head?_dropWhile_isBlank (t : Text) :
    ∀ c ∈ (t.dropWhile isBlank).head?, isBlank c = false := by
  intro c hc
  have hstop := List.head?_dropWhile_not isBlank t
  rw [hc] at hstop
  exact hstop

/-- Blanks are all that a text loses. -/
lemma isInBlanks_strip (t : Text) : IsInBlanks (strip t) t := by
  obtain ⟨back, hback, hblank⟩ := exists_eq_dropEndWhile_append isBlank (t.dropWhile isBlank)
  refine ⟨t.takeWhile isBlank, back, ?_, fun c hc => List.mem_takeWhile_imp hc, hblank⟩
  unfold strip
  rw [← hback, List.takeWhile_append_dropWhile]

/-- What is left has no blank at an end. -/
lemma isTrimmed_strip (t : Text) : IsTrimmed (strip t) := by
  constructor
  · obtain ⟨back, hback, -⟩ := exists_eq_dropEndWhile_append isBlank (t.dropWhile isBlank)
    intro c hc
    unfold strip at hc
    refine head?_dropWhile_isBlank t c ?_
    rw [hback, List.head?_append, Option.mem_def.mp hc]
    rfl
  · intro c hc
    rw [strip, dropEndWhile, List.getLast?_reverse] at hc
    exact head?_dropWhile_isBlank _ c hc

/-- A text without blanks at its ends is what is left of the texts in which it is in blanks. -/
theorem strip_eq_iff : strip t = core ↔ IsTrimmed core ∧ IsInBlanks core t := by
  constructor
  · rintro rfl
    exact ⟨isTrimmed_strip t, isInBlanks_strip t⟩
  · rintro ⟨htrimmed, front, back, rfl, hfront, hback⟩
    have hreversed : (core ++ back).reverse.dropWhile isBlank = core.reverse := by
      rw [List.reverse_append,
        List.dropWhile_append_of_pos fun c hc => hback c (List.mem_reverse.mp hc)]
      refine dropWhile_eq_self_of_head? ?_
      rw [List.head?_reverse]
      exact htrimmed.back
    unfold strip dropEndWhile
    rw [List.dropWhile_append_of_pos hfront]
    cases core with
    | nil =>
      have hnil : back.dropWhile isBlank = [] := List.dropWhile_eq_nil_iff.mpr hback
      rw [List.nil_append, hnil]
      rfl
    | cons c core =>
      have hhead : ∀ d ∈ (c :: core ++ back).head?, isBlank d = false := htrimmed.front
      rw [dropWhile_eq_self_of_head? hhead, hreversed, List.reverse_reverse]

/-- Nothing is left of blanks. -/
lemma isTrimmed_nil : IsTrimmed [] :=
  ⟨nofun, nofun⟩

/-- A text without any blanks has none at its ends. -/
lemma isTrimmed_of_not_blank (h : ∀ c ∈ t, isBlank c = false) : IsTrimmed t :=
  ⟨fun c hc => h c (List.mem_of_mem_head? hc), fun c hc => h c (List.mem_of_getLast? hc)⟩

/-- A text is in no blanks, and so in blanks. -/
lemma isInBlanks_self (t : Text) : IsInBlanks t t :=
  ⟨[], [], by rw [List.append_nil, List.nil_append], nofun, nofun⟩

/-- Every character of a text is one of the text in blanks. -/
lemma IsInBlanks.mem (h : IsInBlanks core t) {c : Char} (hc : c ∈ core) : c ∈ t := by
  obtain ⟨front, back, rfl, -, -⟩ := h
  exact List.mem_append_right front (List.mem_append_left back hc)

/-- A character that is no blank stands in a text that is in blanks only if it is one of its own. -/
lemma IsInBlanks.not_mem (h : IsInBlanks core t) {a : Char} (hblank : isBlank a = false)
    (ha : a ∉ core) : a ∉ t := by
  obtain ⟨front, back, rfl, hfront, hback⟩ := h
  have hne : ∀ c, isBlank c = true → a ≠ c := by
    rintro c hc rfl
    rw [hblank] at hc
    cases hc
  rw [List.mem_append, List.mem_append]
  rintro (hmem | hmem | hmem)
  · exact hne a (hfront a hmem) rfl
  · exact ha hmem
  · exact hne a (hback a hmem) rfl

/-- More blanks can be put around a text that is in blanks. -/
lemma IsInBlanks.trans {inner : Text} (h : IsInBlanks inner core) (h' : IsInBlanks core t) :
    IsInBlanks inner t := by
  obtain ⟨front, back, rfl, hfront, hback⟩ := h
  obtain ⟨front', back', rfl, hfront', hback'⟩ := h'
  refine ⟨front' ++ front, back ++ back', by simp only [List.append_assoc], ?_, ?_⟩
  · exact fun c hc => (List.mem_append.mp hc).elim (hfront' c) (hfront c)
  · exact fun c hc => (List.mem_append.mp hc).elim (hback c) (hback' c)

/-- The same is left of a text whether it is in blanks or not. -/
lemma strip_of_isInBlanks (h : IsInBlanks core t) : strip t = strip core :=
  strip_eq_iff.mpr ⟨isTrimmed_strip core, (isInBlanks_strip core).trans h⟩

end

/-! ### Numerals -/

/-- The text is the number in decimal digits, with any number of zeros in front. -/
def IsNumeralOf (n : Nat) (t : Text) : Prop :=
  ∃ zeros, t = List.replicate zeros '0' ++ digits n

/-- The place of the digits among the characters. -/
lemma toNat_of_isDigit {c : Char} (h : c.isDigit = true) : 48 ≤ c.toNat ∧ c.toNat ≤ 57 := by
  unfold Char.isDigit at h
  simp only [Bool.and_eq_true, decide_eq_true_iff, UInt32.le_iff_toNat_le] at h
  exact h

/-- A digit is no blank. -/
lemma isBlank_of_isDigit {c : Char} (h : c.isDigit = true) : isBlank c = false := by
  have hbounds := toNat_of_isDigit h
  unfold isBlank
  simp
  omega

/-- A digit is the numeral of the number that it stands for. -/
lemma exists_digits_eq {c : Char} (h : c.isDigit = true) : ∃ d < 10, digits d = [c] := by
  have hbounds := toNat_of_isDigit h
  refine ⟨c.toNat - 48, by omega, ?_⟩
  have hchar : ∀ d < 10, Nat.toDigits 10 d = [Char.ofNat (d + 48)] := by decide
  have hc := hchar (c.toNat - 48) (by omega)
  rw [Nat.sub_add_cancel hbounds.1, Char.ofNat_toNat] at hc
  exact hc

section

variable {n : Nat} {t : Text}

/-- A numeral has digits only. -/
lemma IsNumeralOf.isDigit (h : IsNumeralOf n t) : ∀ c ∈ t, c.isDigit = true := by
  obtain ⟨zeros, rfl⟩ := h
  intro c hc
  rcases List.mem_append.mp hc with hc | hc
  · rw [List.eq_of_mem_replicate hc]
    decide
  · exact Nat.isDigit_of_mem_toDigits (by decide) (by decide) hc

/-- A numeral has some digit. -/
lemma IsNumeralOf.ne_nil (h : IsNumeralOf n t) : t ≠ [] := by
  obtain ⟨zeros, rfl⟩ := h
  exact List.append_ne_nil_of_right_ne_nil _ Nat.toDigits_ne_nil

/-- A numeral has the value of its number. -/
lemma IsNumeralOf.digitsValue (h : IsNumeralOf n t) : digitsValue t = n := by
  obtain ⟨zeros, rfl⟩ := h
  rw [Text.digitsValue, Nat.ofDigitChars_append, Nat.ofDigitChars_replicate_zero, Nat.mul_zero,
    digits, Nat.ofDigitChars_ten_toDigits]

/-- A run of digits is a numeral of its value. -/
lemma isNumeralOf_digitsValue (hne : t ≠ []) (h : ∀ c ∈ t, c.isDigit = true) :
    IsNumeralOf (digitsValue t) t := by
  induction t using List.reverseRecOn with
  | nil => exact absurd rfl hne
  | append_singleton t c ih =>
    obtain ⟨d, hd, hdigits⟩ := exists_digits_eq (h c (List.mem_append_right t (by simp)))
    have hvalue : digitsValue (t ++ [c]) = 10 * digitsValue t + d := by
      have hc : Nat.ofDigitChars 10 [c] 0 = d := by
        rw [← hdigits, digits, Nat.ofDigitChars_ten_toDigits]
      rw [digitsValue, Nat.ofDigitChars_append, Nat.ofDigitChars_eq_ofDigitChars_zero, hc]
      rfl
    rw [hvalue]
    by_cases ht : t = []
    · subst ht
      exact ⟨0, by rw [← hdigits]; simp [digitsValue]⟩
    · obtain ⟨zeros, hzeros⟩ := ih ht fun e he => h e (List.mem_append_left [c] he)
      rcases Nat.eq_zero_or_pos (digitsValue t) with hzero | hpos
      · -- a run of zeros: its last one is a zero in front of the new digit
        refine ⟨zeros + 1, ?_⟩
        have hlast : t = List.replicate (zeros + 1) '0' := by
          rw [hzeros, hzero, List.replicate_succ']
          rfl
        rw [hzero, Nat.mul_zero, Nat.zero_add, hdigits, ← hlast]
      · refine ⟨zeros, ?_⟩
        rw [digits, ← Nat.toDigits_append_toDigits (by decide) hpos hd, ← List.append_assoc]
        exact congrArg₂ (· ++ ·) hzeros hdigits.symm

/-- A text is a numeral of its value. -/
theorem value?_eq_some_iff : value? t = some n ↔ IsNumeralOf n t := by
  unfold value? isNumeral
  constructor
  · intro h
    split at h
    · next hnumeral =>
      rw [Bool.and_eq_true, List.all_eq_true] at hnumeral
      obtain rfl := Option.some.inj h
      exact isNumeralOf_digitsValue (by simpa using hnumeral.1) hnumeral.2
    · cases h
  · intro h
    rw [if_pos, h.digitsValue]
    rw [Bool.and_eq_true, List.all_eq_true]
    exact ⟨by simpa using h.ne_nil, h.isDigit⟩

/-- A text reads as a number exactly if it is a numeral of it and does not have too many digits. -/
theorem numeral?_eq_some_iff :
    numeral? t = some (.ok n) ↔ IsNumeralOf n t ∧ t.length ≤ digitLimit := by
  constructor
  · intro h
    unfold numeral? readDigits at h
    split at h
    · next hnumeral =>
      split at h
      · next hlength =>
        have hvalue : value? t = some n := by
          rw [value?, if_pos hnumeral]
          exact congrArg some (Except.ok.inj (Option.some.inj h))
        exact ⟨value?_eq_some_iff.mp hvalue, hlength⟩
      · cases h
    · cases h
  · exact fun ⟨hnumeral, hlength⟩ => numeral?_of_value? (value?_eq_some_iff.mpr hnumeral) hlength

/-- A number that is read can be written. -/
lemma isWritable_of_numeral? (h : numeral? t = some (.ok n)) : isWritable n = true := by
  obtain ⟨⟨zeros, rfl⟩, hlength⟩ := numeral?_eq_some_iff.mp h
  rw [List.length_append] at hlength
  exact decide_eq_true (Nat.le_trans (Nat.le_add_left _ _) hlength)

/-- The reading of a text overflows exactly if it is a numeral with too many digits. -/
lemma numeral?_eq_some_error_iff {o : Overflow} :
    numeral? t = some (.error o) ↔
      (∃ n, IsNumeralOf n t) ∧ digitLimit < t.length ∧ o = .reading t.length := by
  simp only [← value?_eq_some_iff]
  unfold numeral? value? readDigits
  by_cases hnumeral : isNumeral t = true
  · by_cases hlength : t.length ≤ digitLimit
    · simp [hnumeral, hlength, Nat.not_lt.mpr hlength]
    · simp [hnumeral, hlength, Nat.lt_of_not_le hlength, eq_comm]
  · simp [hnumeral]

/-- A numeral has no blank at an end. -/
lemma IsNumeralOf.isTrimmed (h : IsNumeralOf n t) : IsTrimmed t :=
  isTrimmed_of_not_blank fun c hc => isBlank_of_isDigit (h.isDigit c hc)

/-! ### Numerals in blanks -/

/-- The text is a numeral of the number, in blanks. -/
def IsSpacedNumeralOf (n : Nat) (t : Text) : Prop :=
  ∃ numeral, IsNumeralOf n numeral ∧ IsInBlanks numeral t

/-- The text is a numeral of the number in blanks, with no more digits than are read. -/
structure IsReadNumeralOf (n : Nat) (t : Text) : Prop where
  isSpaced : IsSpacedNumeralOf n t
  short : (strip t).length ≤ 4300

/-- The text is a run of digits in blanks, with more digits than are read. -/
def IsOverlong (t : Text) : Prop :=
  (∀ c ∈ strip t, c.isDigit = true) ∧ 4300 < (strip t).length

/-- A text is a numeral in blanks exactly if its number is the value of it without the blanks at its
ends. -/
theorem value?_strip_eq_some_iff : value? (strip t) = some n ↔ IsSpacedNumeralOf n t := by
  rw [value?_eq_some_iff]
  constructor
  · exact fun h => ⟨strip t, h, isInBlanks_strip t⟩
  · rintro ⟨numeral, hnumeral, hblanks⟩
    rwa [strip_eq_iff.mpr ⟨hnumeral.isTrimmed, hblanks⟩]

/-- Without the blanks at its ends a text reads as a number exactly if it is a numeral in blanks
that does not have too many digits. -/
theorem numeral?_strip_eq_some_iff : numeral? (strip t) = some (.ok n) ↔ IsReadNumeralOf n t := by
  rw [numeral?_eq_some_iff, ← value?_eq_some_iff, value?_strip_eq_some_iff]
  exact ⟨fun h => ⟨h.1, h.2⟩, fun h => ⟨h.isSpaced, h.short⟩⟩

/-- Its reading overflows exactly if it has too many digits. -/
theorem numeral?_strip_eq_some_error_iff {o : Overflow} :
    numeral? (strip t) = some (.error o) ↔ IsOverlong t ∧ o = .reading (strip t).length := by
  rw [numeral?_eq_some_error_iff]
  constructor
  · rintro ⟨⟨n, hnumeral⟩, hlong, ho⟩
    exact ⟨⟨hnumeral.isDigit, hlong⟩, ho⟩
  · rintro ⟨⟨hdigits, hlong⟩, ho⟩
    have hne : strip t ≠ [] := List.ne_nil_of_length_pos (Nat.zero_lt_of_lt hlong)
    exact ⟨⟨_, isNumeralOf_digitsValue hne hdigits⟩, hlong, ho⟩

/-- A text whose reading overflows is overlong. -/
lemma isOverlong_of_numeral? {o : Overflow} (h : numeral? t = some (.error o)) :
    IsOverlong t ∧ o = .reading (strip t).length := by
  obtain ⟨⟨n, hnumeral⟩, -⟩ := numeral?_eq_some_error_iff.mp h
  rw [← numeral?_strip_eq_some_error_iff,
    strip_eq_iff.mpr ⟨hnumeral.isTrimmed, isInBlanks_self t⟩]
  exact h

/-- An overlong text has no other characters than blanks and digits. -/
lemma IsOverlong.not_mem (h : IsOverlong t) {a : Char} (hblank : isBlank a = false)
    (hdigit : a.isDigit = false) : a ∉ t := by
  refine (isInBlanks_strip t).not_mem hblank fun ha => ?_
  rw [h.1 a ha] at hdigit
  cases hdigit

/-- A numeral in blanks has no other characters than blanks and digits. -/
lemma IsSpacedNumeralOf.not_mem (h : IsSpacedNumeralOf n t) {a : Char} (hblank : isBlank a = false)
    (hdigit : a.isDigit = false) : a ∉ t := by
  obtain ⟨numeral, hnumeral, hblanks⟩ := h
  refine hblanks.not_mem hblank fun ha => ?_
  rw [hnumeral.isDigit a ha] at hdigit
  cases hdigit

/-- A numeral in blanks is not blank. -/
lemma IsSpacedNumeralOf.strip_ne_nil (h : IsSpacedNumeralOf n t) : strip t ≠ [] := by
  obtain ⟨numeral, hnumeral, hblanks⟩ := h
  rw [strip_eq_iff.mpr ⟨hnumeral.isTrimmed, hblanks⟩]
  exact hnumeral.ne_nil

end

/-! ### Parts in blanks -/

section

variable {core t : Text} {separator : Char}

/-- Induction on a text that falls apart at characters of a class, from its front, a part at a
time. -/
theorem parts_induction {motive : Text → Prop} (p : Char → Bool)
    (last : ∀ part, (∀ c ∈ part, p c = false) → motive part)
    (part : ∀ part c rest, (∀ d ∈ part, p d = false) → p c = true → motive rest →
      motive (part ++ c :: rest)) (t : Text) : motive t := by
  induction hlength : t.length using Nat.strong_induction_on generalizing t with
  | _ n ih =>
    have hfirst : ∀ c ∈ t.takeWhile (!p ·), p c = false := fun c hc => by
      simpa using List.mem_takeWhile_imp hc
    rw [← List.takeWhile_append_dropWhile (p := (!p ·)) (l := t)] at hlength ⊢
    cases hrest : t.dropWhile (!p ·) with
    | nil =>
      rw [List.append_nil]
      exact last _ hfirst
    | cons c rest =>
      have hlt : rest.length < n := by
        rw [hrest, List.length_append, List.length_cons] at hlength
        omega
      have hc : p c = true := by
        have hstop := List.head?_dropWhile_not (!p ·) t
        rw [hrest] at hstop
        simpa using hstop
      exact part _ c rest hfirst hc (ih rest.length hlt rest rfl)

/-- Induction on a text that is split at a separator, from its front, a part at a time. -/
theorem splitOn_induction {motive : Text → Prop} (separator : Char)
    (last : ∀ part, separator ∉ part → motive part)
    (part : ∀ part rest, separator ∉ part → motive rest → motive (part ++ separator :: rest))
    (t : Text) : motive t := by
  have hpart : ∀ part : Text, (∀ c ∈ part, (c == separator) = false) → separator ∉ part :=
    fun part h hmem => by simpa using h separator hmem
  induction t using parts_induction (· == separator) with
  | last first h => exact last first (hpart first h)
  | part first c rest h hc ih =>
    obtain rfl := eq_of_beq hc
    exact part first rest (hpart first h) ih

/-- The parts do not have the separator. -/
lemma not_mem_of_mem_splitOn (separator : Char) (t : Text) :
    ∀ part ∈ t.splitOn separator, separator ∉ part := by
  induction t using splitOn_induction separator with
  | last part hpart =>
    rw [List.splitOn_eq_singleton hpart]
    exact List.forall_mem_singleton.mpr hpart
  | part part rest hpart ih =>
    rw [List.splitOn_append_cons_self_of_not_mem hpart]
    exact List.forall_mem_cons.mpr ⟨hpart, ih⟩

/-- The blanks at the ends of a text make no difference to what is left of its parts. -/
theorem map_strip_splitOn (hseparator : isBlank separator = false) (h : IsInBlanks core t) :
    (t.splitOn separator).map strip = (core.splitOn separator).map strip := by
  induction core using splitOn_induction separator generalizing t with
  | last part hpart =>
    rw [List.splitOn_eq_singleton hpart, List.splitOn_eq_singleton (h.not_mem hseparator hpart),
      List.map_singleton, List.map_singleton, strip_of_isInBlanks h]
  | part part rest hpart ih =>
    -- the first part has the blanks of the front, and the others those of the back
    obtain ⟨front, back, rfl, hfront, hback⟩ := h
    have hfirst : IsInBlanks part (front ++ part) :=
      ⟨front, [], by rw [List.append_nil], hfront, nofun⟩
    have hothers : IsInBlanks rest (rest ++ back) := ⟨[], back, rfl, nofun, hback⟩
    have hparts : front ++ (part ++ separator :: rest ++ back) =
        (front ++ part) ++ separator :: (rest ++ back) := by
      simp only [List.append_assoc, List.cons_append]
    rw [hparts, List.splitOn_append_cons_self_of_not_mem (hfirst.not_mem hseparator hpart),
      List.splitOn_append_cons_self_of_not_mem hpart, List.map_cons, List.map_cons,
      strip_of_isInBlanks hfirst, ih hothers]

/-- Parts that do not have the separator are the parts of what they make with separators between
them. -/
lemma map_strip_splitOn_of_intercalate {parts : List Text} (hseparator : isBlank separator = false)
    (hparts : ∀ part ∈ parts, separator ∉ part) (hne : parts ≠ [])
    (h : IsInBlanks (List.intercalate [separator] parts) t) :
    (t.splitOn separator).map strip = parts.map strip := by
  rw [map_strip_splitOn hseparator h, List.splitOn_intercalate separator hparts hne]

/-- What parts make with separators between them opens with the first of them. -/
lemma prefix_intercalate (separator part : Text) (parts : List Text) :
    part <+: List.intercalate separator (part :: parts) := by
  cases parts with
  | nil => exact ⟨[], by rw [List.append_nil, List.intercalate_singleton]⟩
  | cons part' parts =>
    rw [List.intercalate_cons_cons, List.append_assoc]
    exact List.prefix_append part _

/-- A character other than the separator stands in what parts make only if it stands in a part. -/
lemma not_mem_intercalate {a : Char} {parts : List Text} (hne : a ≠ separator)
    (h : ∀ part ∈ parts, a ∉ part) : a ∉ List.intercalate [separator] parts := by
  induction parts with
  | nil => exact List.not_mem_nil
  | cons part parts ih =>
    have hpart := h part List.mem_cons_self
    have hparts := ih fun part' hpart' => h part' (List.mem_cons_of_mem part hpart')
    cases parts with
    | nil =>
      rw [List.intercalate_singleton]
      exact hpart
    | cons part' parts =>
      rw [List.intercalate_cons_cons, List.mem_append, List.mem_append, List.mem_singleton]
      rintro ((hmem | hmem) | hmem)
      · exact hpart hmem
      · exact hne hmem
      · exact hparts hmem

end

end Text

end LittleMan
