import LittleMan.Proofs.Basic
import LittleMan.Proofs.Text.Refill
import LittleMan.Proofs.Text.Written
import LittleMan.Text.Line
import LittleMan.Text.Lower
import LittleMan.Text.Quoted
import LittleMan.Text.Upper

/-!
# Texts on one line

A message quotes what the user wrote, and it is a message on one line only if no break comes in with
that. Every line break is blank (`isBlank_of_isLineBreak`), so what a reader finds between blanks is
on one line (`IsField.isOneLine`). So are numbers, in decimal and in hexadecimal, and quoted texts,
whatever they quote (`isOneLine_quoted`). A change of case brings no break in: of the tables for it
no entry is one (`isOneLine_upper`, `isOneLine_lower`).
-/

namespace LittleMan

namespace Text

/-- The text has no line breaks, of any kind. -/
def IsOneLine (t : Text) : Prop :=
  ∀ c ∈ t, isLineBreak c = false

instance (t : Text) : Decidable (IsOneLine t) :=
  decidable_of_iff (t.all (!isLineBreak ·) = true) (by simp [IsOneLine])

section

variable {s t : Text} {c : Char}

/-! ### Parts -/

lemma isOneLine_nil : IsOneLine [] :=
  nofun

lemma isOneLine_cons : IsOneLine (c :: t) ↔ isLineBreak c = false ∧ IsOneLine t :=
  List.forall_mem_cons

lemma isOneLine_append : IsOneLine (s ++ t) ↔ IsOneLine s ∧ IsOneLine t :=
  List.forall_mem_append

/-- Two texts on one line are on one line together. -/
lemma IsOneLine.append (hs : IsOneLine s) (ht : IsOneLine t) : IsOneLine (s ++ t) :=
  isOneLine_append.mpr ⟨hs, ht⟩

/-- A text made of characters of a text on one line is on one line. -/
lemma IsOneLine.mono (h : IsOneLine t) (hs : s ⊆ t) : IsOneLine s :=
  fun c hc => h c (hs hc)

/-- Texts on one line are so with a separator between them. -/
lemma isOneLine_intercalate {parts : List Text} (hs : IsOneLine s)
    (hparts : ∀ part ∈ parts, IsOneLine part) : IsOneLine (List.intercalate s parts) := by
  induction parts with
  | nil => exact isOneLine_nil
  | cons part parts ih =>
    obtain ⟨hpart, hparts⟩ := List.forall_mem_cons.mp hparts
    cases parts with
    | nil =>
      rw [List.intercalate_singleton]
      exact hpart
    | cons part' parts =>
      rw [List.intercalate_cons_cons]
      exact (hpart.append hs).append (ih hparts)

/-- What is left of a text on one line without the blanks at its ends is on one line. -/
lemma IsOneLine.strip (h : IsOneLine t) : IsOneLine (strip t) :=
  h.mono fun _ hc => (isInBlanks_strip t).mem hc

/-- Every line break is blank. -/
lemma isBlank_of_isLineBreak (h : isLineBreak c = true) : isBlank c = true := by
  unfold isLineBreak at h
  unfold isBlank
  simp only [Bool.or_eq_true, Bool.and_eq_true, decide_eq_true_iff, beq_iff_eq] at h ⊢
  omega

/-- A character that is not blank is no line break. -/
lemma isLineBreak_of_not_blank (h : isBlank c = false) : isLineBreak c = false := by
  refine Bool.eq_false_iff.mpr fun hbreak => ?_
  rw [isBlank_of_isLineBreak hbreak] at h
  cases h

/-- A field is on one line, whatever line the text is on that it is a field of. -/
lemma IsField.isOneLine (h : IsField t) : IsOneLine t :=
  fun c hc => isLineBreak_of_not_blank (h.not_blank c hc)

/-! ### Numbers -/

/-- A number in any base is written with its digits. -/
lemma exists_digitChar_of_mem_toDigits {base : Nat} (hbase : 1 < base) (n : Nat) :
    ∀ c ∈ Nat.toDigits base n, ∃ d < base, c = Nat.digitChar d := by
  induction n using Nat.strong_induction_on with
  | _ n ih =>
    rcases Nat.lt_or_ge n base with hlt | hge
    · rw [Nat.toDigits_of_lt_base hlt]
      exact List.forall_mem_singleton.mpr ⟨n, hlt, rfl⟩
    · have hsmaller : n / base < n := Nat.div_lt_self (by omega) hbase
      have hdigit : n % base < base := Nat.mod_lt n (by omega)
      rw [Nat.toDigits_of_base_le hbase hge]
      exact List.forall_mem_append.mpr
        ⟨ih _ hsmaller, List.forall_mem_singleton.mpr ⟨_, hdigit, rfl⟩⟩

/-- The digits of a number are on one line. -/
lemma isOneLine_toDigits {base : Nat} (hbase : 1 < base) (hsmall : base ≤ 16) (n : Nat) :
    IsOneLine (Nat.toDigits base n) := by
  have hdigits : ∀ d < 16, isLineBreak (Nat.digitChar d) = false := by decide
  intro c hc
  obtain ⟨d, hd, rfl⟩ := exists_digitChar_of_mem_toDigits hbase n c hc
  exact hdigits d (by omega)

/-- A text on one line stays so when it is filled up. -/
lemma IsOneLine.leftpad (h : IsOneLine t) (width : Nat) (hc : isLineBreak c = false) :
    IsOneLine (t.leftpad width c) := by
  refine IsOneLine.append (fun d hd => ?_) h
  rw [List.eq_of_mem_replicate hd]
  exact hc

lemma IsOneLine.rightpad (h : IsOneLine t) (width : Nat) (hc : isLineBreak c = false) :
    IsOneLine (t.rightpad width c) := by
  refine h.append fun d hd => ?_
  rw [List.eq_of_mem_replicate hd]
  exact hc

lemma isOneLine_digits (n : Nat) : IsOneLine (digits n) :=
  isOneLine_toDigits (by decide) (by decide) n

lemma isOneLine_decimal (n : Int) : IsOneLine (decimal n) := by
  unfold decimal
  split
  · exact isOneLine_cons.mpr ⟨by decide, isOneLine_digits _⟩
  · exact isOneLine_digits _

lemma isOneLine_zeroPadded (width : Nat) (n : Int) : IsOneLine (zeroPadded width n) := by
  unfold zeroPadded
  split
  · exact isOneLine_cons.mpr ⟨by decide, (isOneLine_digits _).leftpad _ (by decide)⟩
  · exact (isOneLine_digits _).leftpad _ (by decide)

/-- An overflow is told on one line. -/
lemma isOneLine_overflow (o : Overflow) : IsOneLine o.message := by
  have hopening : IsOneLine ("Exceeds the limit (" ++ digits digitLimit ++
      " digits) for integer string conversion") :=
    (IsOneLine.append (by decide) (isOneLine_digits _)).append (by decide)
  cases o with
  | reading count =>
    have hcount : IsOneLine (": value has " ++ digits count ++ " digits") :=
      (IsOneLine.append (by decide) (isOneLine_digits _)).append (by decide)
    exact (hopening.append hcount).append (by decide)
  | writing => exact (hopening.append isOneLine_nil).append (by decide)

lemma isOneLine_hexPadded (width n : Nat) : IsOneLine (hexPadded width n) :=
  (isOneLine_toDigits (by decide) le_rfl n).leftpad _ (by decide)

/-! ### Quoted texts -/

/-- No line break is printable. -/
lemma isLineBreak_of_isPrintable (h : isPrintable c = true) : isLineBreak c = false := by
  refine Bool.eq_false_iff.mpr fun hbreak => ?_
  unfold isLineBreak at hbreak
  simp only [Bool.or_eq_true, Bool.and_eq_true, decide_eq_true_iff, beq_iff_eq] at hbreak
  unfold isPrintable at h
  split at h
  · have hprinted := of_decide_eq_true h
    omega
  · have hout : ∀ range ∈ unprintableRanges, ¬ (range.1 ≤ c.toNat ∧ c.toNat ≤ range.2) := by
      intro range hrange hin
      have hfound : inRanges unprintableRanges c = true :=
        List.any_eq_true.mpr ⟨range, hrange, by simpa using hin⟩
      rw [hfound] at h
      cases h
    have hcontrols := hout (0x7F, 0xA0) (by decide)
    have hseparators := hout (0x2028, 0x202F) (by decide +kernel)
    dsimp only at hcontrols hseparators
    omega

/-- What stands for a character in a quoted text is on one line. -/
lemma isOneLine_escapeChar {mark : Char} (hmark : isLineBreak mark = false) (c : Char) :
    IsOneLine (escapeChar mark c) := by
  unfold escapeChar
  split
  · next hescaped =>
    have hc : isLineBreak c = false := by
      rcases hescaped with rfl | rfl
      · exact hmark
      · decide
    exact isOneLine_cons.mpr ⟨by decide, isOneLine_cons.mpr ⟨hc, isOneLine_nil⟩⟩
  · split
    · decide
    · split
      · decide
      · split
        · decide
        · split
          · next hprintable =>
            exact isOneLine_cons.mpr ⟨isLineBreak_of_isPrintable hprintable, isOneLine_nil⟩
          · split
            · exact IsOneLine.append (by decide) (isOneLine_hexPadded _ _)
            · split
              · exact IsOneLine.append (by decide) (isOneLine_hexPadded _ _)
              · exact IsOneLine.append (by decide) (isOneLine_hexPadded _ _)

/-- A quoted text is on one line, whatever it quotes. -/
theorem isOneLine_quoted (t : Text) : IsOneLine (quoted t) := by
  have hmark : isLineBreak (quoteMark t) = false := by
    unfold quoteMark
    split <;> decide
  have hescaped : IsOneLine (t.flatMap (escapeChar (quoteMark t))) := by
    intro c hc
    obtain ⟨d, -, hd⟩ := List.mem_flatMap.mp hc
    exact isOneLine_escapeChar hmark d c hd
  have hend : IsOneLine [quoteMark t] := isOneLine_cons.mpr ⟨hmark, isOneLine_nil⟩
  exact IsOneLine.append (isOneLine_cons.mpr ⟨hmark, hescaped⟩) hend

/-! ### Case -/

/-- A table that moves to no line break makes none of another character. -/
lemma isLineBreak_mapChar {runs : List CaseRun} (hc : isLineBreak c = false)
    (hruns : ∀ run ∈ runs, ∀ k < run.2.1 - run.1 + 1,
      isLineBreak (Char.ofNat (run.2.2.2 + k)) = false) :
    isLineBreak (CaseRun.mapChar runs c) = false := by
  unfold CaseRun.mapChar
  split
  · next n hmoved =>
    obtain ⟨⟨first, last, step, image⟩, hrun, hn⟩ := List.exists_of_findSome?_eq_some hmoved
    unfold CaseRun.map? at hn
    dsimp only at hn
    split at hn
    · obtain rfl := Option.some.inj hn
      exact hruns _ hrun (c.toNat - first) (by dsimp only; omega)
    · cases hn
  · exact hc

/-- No character other than a line break becomes one in upper case. -/
lemma isOneLine_upperChar (hc : isLineBreak c = false) : IsOneLine (upperChar c) := by
  have hascii : ∀ n < 128, isLineBreak (Char.ofNat n) = false →
      isLineBreak (Char.ofNat n).toUpper = false := by decide
  have hspellings : ∀ entry ∈ upperSpellings, ∀ n ∈ entry.2,
      isLineBreak (Char.ofNat n) = false := by decide +kernel
  have hruns : ∀ run ∈ upperRuns, ∀ k < run.2.1 - run.1 + 1,
      isLineBreak (Char.ofNat (run.2.2.2 + k)) = false := by decide +kernel
  unfold upperChar
  split
  · next hsmall =>
    have hkept := hascii c.toNat hsmall
    rw [Char.ofNat_toNat] at hkept
    exact isOneLine_cons.mpr ⟨hkept hc, isOneLine_nil⟩
  · split
    · next spelling hfound =>
      intro d hd
      obtain ⟨n, hn, rfl⟩ := List.mem_map.mp hd
      exact hspellings _ (mem_of_lookup_eq_some hfound) n hn
    · exact isOneLine_cons.mpr ⟨isLineBreak_mapChar hc hruns, isOneLine_nil⟩

/-- A text on one line is so in upper case. -/
theorem IsOneLine.upper (h : IsOneLine t) : IsOneLine (upper t) := by
  intro d hd
  obtain ⟨c, hc, hd⟩ := List.mem_flatMap.mp hd
  exact isOneLine_upperChar (h c hc) d hd

/-- No character other than a line break becomes one in lower case. -/
lemma isOneLine_lowerChar (hc : isLineBreak c = false) : IsOneLine (lowerChar c) := by
  have hascii : ∀ n < 128, isLineBreak (Char.ofNat n) = false →
      isLineBreak (Char.ofNat n).toLower = false := by decide
  have hruns : ∀ run ∈ lowerRuns, ∀ k < run.2.1 - run.1 + 1,
      isLineBreak (Char.ofNat (run.2.2.2 + k)) = false := by decide +kernel
  unfold lowerChar
  split
  · next hsmall =>
    have hkept := hascii c.toNat hsmall
    rw [Char.ofNat_toNat] at hkept
    exact isOneLine_cons.mpr ⟨hkept hc, isOneLine_nil⟩
  · split
    · decide
    · exact isOneLine_cons.mpr ⟨isLineBreak_mapChar hc hruns, isOneLine_nil⟩

lemma IsOneLine.lowerAfter (h : IsOneLine t) (inWord : Bool) : IsOneLine (lowerAfter inWord t) := by
  induction t generalizing inWord with
  | nil => exact isOneLine_nil
  | cons c t ih =>
    obtain ⟨hc, ht⟩ := isOneLine_cons.mp h
    unfold Text.lowerAfter
    refine IsOneLine.append ?_ (ih ht _)
    split
    · decide
    · exact isOneLine_lowerChar hc

/-- A text on one line is so in lower case. -/
theorem IsOneLine.lower (h : IsOneLine t) : IsOneLine (lower t) :=
  h.lowerAfter false

end

end Text

end LittleMan
