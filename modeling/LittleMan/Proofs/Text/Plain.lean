import LittleMan.Text.Line
import LittleMan.Text.Numeral
import LittleMan.Text.Utf8
import Mathlib.Algebra.Group.Int.Defs
import Mathlib.Algebra.Group.Nat.Defs
import Mathlib.Tactic.Lemma

/-!
# Plain texts

What the toolkit writes for itself to read again is plain: rows of ASCII characters, each closed by
a line feed. Such a text goes through a file unchanged, since its octets decode to it
(`decode_encode_of_isAscii`) and no break in it is turned into another one
(`unifyBreaks_eq_self`), and its lines are its rows (`lines_closeRows`), also if the last row is
left open (`lines_joinRows`). Any text keeps its lines when its breaks are brought to one kind
(`lines_unifyBreaks`). A number that is filled with zeros has the width of its field
(`length_zeroPadded`) and has the number that it was for its value (`value?_zeroPadded`). A numeral
reads as its value if it does not have too many digits (`numeral?_of_value?`).
-/

namespace LittleMan

namespace Text

/-! ### Texts in ASCII -/

/-- Every character is one of ASCII. -/
def IsAscii (t : Text) : Prop :=
  ∀ c ∈ t, c.toNat < 0x80

/-- A character of ASCII is a single octet. -/
lemma utf8EncodeChar_of_lt {c : Char} (h : c.toNat < 0x80) :
    String.utf8EncodeChar c = [UInt8.ofNat c.toNat] :=
  if_pos (Nat.le_of_lt_succ h)

/-- The octets of a text in ASCII decode to it, wherever they stand. -/
lemma decodeFrom_encode (pos : Nat) {t : Text} (h : IsAscii t) :
    Utf8.decodeFrom pos none (Utf8.encode t) = .ok t := by
  induction t generalizing pos with
  | nil => rfl
  | cons c t ih =>
    have hc : c.toNat < 0x80 := h c List.mem_cons_self
    have ht := ih (pos + 1) fun d hd => h d (List.mem_cons_of_mem c hd)
    have hoctets : Utf8.encode (c :: t) = UInt8.ofNat c.toNat :: Utf8.encode t := by
      unfold Utf8.encode
      rw [List.flatMap_cons, utf8EncodeChar_of_lt hc]
      rfl
    have hnat : (UInt8.ofNat c.toNat).toNat = c.toNat := by
      rw [UInt8.toNat_ofNat']
      omega
    have hlt : UInt8.ofNat c.toNat < 0x80 := by
      rw [UInt8.lt_iff_toNat_lt, hnat]
      exact hc
    rw [hoctets, Utf8.decodeFrom, if_pos hlt, ht, hnat, Char.ofNat_toNat]
    rfl

/-- The octets of a text in ASCII decode to it. -/
theorem decode_encode_of_isAscii {t : Text} (h : IsAscii t) :
    Utf8.decode (Utf8.encode t) = .ok t :=
  decodeFrom_encode 0 h

/-! ### Rows and lines -/

/-- A text without carriage returns has no breaks to unify. -/
lemma unifyBreaks_eq_self {t : Text} (h : '\r' ∉ t) : unifyBreaks t = t := by
  fun_induction unifyBreaks t with
  | case1 => rfl
  | case2 rest => exact absurd List.mem_cons_self h
  | case3 c rest hpair ih =>
    have hc : c ≠ '\r' := fun hc => h (hc ▸ List.mem_cons_self)
    rw [if_neg hc, ih fun hr => h (List.mem_cons_of_mem c hr)]

/-- A character that is no break is put in front of the first line. -/
lemma lines_cons {c : Char} (hc : isLineBreak c = false) (rest : Text) :
    lines (c :: rest) = consLine c (lines rest) := by
  have hr : c ≠ '\r' := by
    rintro rfl
    revert hc
    decide
  rw [lines, if_neg (by simp [hc])]
  exact fun _ hcr _ => hr hcr

/-- A character that is a break ends a line, unless it is the first one of a pair. -/
lemma lines_break {c : Char} (hc : isLineBreak c = true) {rest : Text}
    (h : c = '\r' → ∀ rest', rest ≠ '\n' :: rest') : lines (c :: rest) = [] :: lines rest := by
  rw [lines, if_pos hc]
  exact fun rest' hcr hrest => h hcr rest' hrest

/-- No break stands in a line. -/
lemma isLineBreak_of_mem_lines (t : Text) :
    ∀ row ∈ lines t, ∀ c ∈ row, isLineBreak c = false := by
  fun_induction lines t with
  | case1 => exact fun row hrow => absurd hrow List.not_mem_nil
  | case2 rest ih =>
    intro row hrow c hc
    rcases List.mem_cons.mp hrow with rfl | hrow
    · cases hc
    · exact ih row hrow c hc
  | case3 c rest hpair hbreak ih =>
    intro row hrow d hd
    rcases List.mem_cons.mp hrow with rfl | hrow
    · cases hd
    · exact ih row hrow d hd
  | case4 c rest hpair hbreak ih =>
    have hc : isLineBreak c = false := Bool.eq_false_iff.mpr hbreak
    generalize lines rest = rows at ih
    intro row hrow d hd
    cases rows with
    | nil =>
      obtain rfl : row = [c] := List.mem_singleton.mp hrow
      rw [List.mem_singleton.mp hd]
      exact hc
    | cons first others =>
      rcases List.mem_cons.mp hrow with rfl | hrow
      · rcases List.mem_cons.mp hd with rfl | hd
        · exact hc
        · exact ih first List.mem_cons_self d hd
      · exact ih row (List.mem_cons_of_mem first hrow) d hd

/-- The lines of a text are the same when its breaks are brought to one kind. -/
theorem lines_unifyBreaks (t : Text) : lines (unifyBreaks t) = lines t := by
  fun_induction unifyBreaks t with
  | case1 => rfl
  | case2 rest ih =>
    change [] :: lines (unifyBreaks rest) = [] :: lines rest
    rw [ih]
  | case3 c rest hpair ih =>
    by_cases hc : c = '\r'
    · have hsingle : lines (c :: rest) = [] :: lines rest :=
        lines_break (by rw [hc]; decide) fun hcr rest' hrest => hpair rest' hcr hrest
      rw [if_pos hc, hsingle]
      change [] :: lines (unifyBreaks rest) = [] :: lines rest
      rw [ih]
    · rw [if_neg hc]
      cases hbreak : isLineBreak c with
      | true =>
        have hbroken (rest : Text) : lines (c :: rest) = [] :: lines rest :=
          lines_break hbreak fun hcr => absurd hcr hc
        rw [hbroken, hbroken, ih]
      | false => rw [lines_cons hbreak, lines_cons hbreak, ih]

/-- A row in front of a text is its first line. -/
lemma lines_append_feed {row : Text} (h : ∀ c ∈ row, isLineBreak c = false) (rest : Text) :
    lines (row ++ '\n' :: rest) = row :: lines rest := by
  induction row with
  | nil => rfl
  | cons c row ih =>
    have hrow := ih fun d hd => h d (List.mem_cons_of_mem c hd)
    rw [List.cons_append, lines_cons (h c List.mem_cons_self), hrow]
    rfl

/-- The lines of a block of rows are the rows. -/
theorem lines_closeRows {rows : List Text} (h : ∀ row ∈ rows, ∀ c ∈ row, isLineBreak c = false) :
    lines (closeRows rows) = rows := by
  induction rows with
  | nil => rfl
  | cons row rows ih =>
    have hrow := h row List.mem_cons_self
    have hrows := ih fun row' hrow' => h row' (List.mem_cons_of_mem row hrow')
    have hclose : closeRows (row :: rows) = row ++ '\n' :: closeRows rows := by
      simp [closeRows]
    rw [hclose, lines_append_feed hrow, hrows]

/-- A row alone is a single line. -/
lemma lines_eq_singleton {row : Text} (hne : row ≠ []) (h : ∀ c ∈ row, isLineBreak c = false) :
    lines row = [row] := by
  induction row with
  | nil => exact absurd rfl hne
  | cons c row ih =>
    rw [lines_cons (h c List.mem_cons_self)]
    cases row with
    | nil => rfl
    | cons d row =>
      rw [ih (List.cons_ne_nil d row) fun e he => h e (List.mem_cons_of_mem c he)]
      rfl

/-- The lines of a block of rows without a break behind the last one are the rows, when none of
them is empty. -/
theorem lines_joinRows {rows : List Text} (hne : ∀ row ∈ rows, row ≠ [])
    (h : ∀ row ∈ rows, ∀ c ∈ row, isLineBreak c = false) : lines (joinRows rows) = rows := by
  induction rows with
  | nil => rfl
  | cons row rows ih =>
    have hrow := h row List.mem_cons_self
    have hrows := ih (fun row' hrow' => hne row' (List.mem_cons_of_mem row hrow'))
      fun row' hrow' => h row' (List.mem_cons_of_mem row hrow')
    cases rows with
    | nil =>
      have hjoin : joinRows [row] = row := by simp [joinRows]
      rw [hjoin, lines_eq_singleton (hne row List.mem_cons_self) hrow]
    | cons row' rows =>
      have hjoin : joinRows (row :: row' :: rows) = row ++ '\n' :: joinRows (row' :: rows) := by
        simp [joinRows, List.intercalate]
      rw [hjoin, lines_append_feed hrow, hrows]

lemma closeRows_append (rows rows' : List Text) :
    closeRows (rows ++ rows') = closeRows rows ++ closeRows rows' :=
  List.flatMap_append

/-- A block of rows is a row like any other when it is closed. -/
lemma closeRows_joinRows {rows : List Text} (hne : rows ≠ []) :
    closeRows [joinRows rows] = closeRows rows := by
  induction rows with
  | nil => exact absurd rfl hne
  | cons row rows ih =>
    cases rows with
    | nil => simp [joinRows]
    | cons row' rows =>
      have hrows := ih (List.cons_ne_nil row' rows)
      have hjoin : joinRows (row :: row' :: rows) = row ++ '\n' :: joinRows (row' :: rows) := by
        simp [joinRows, List.intercalate]
      unfold closeRows at hrows ⊢
      rw [hjoin, List.flatMap_cons, List.flatMap_nil, List.flatMap_cons, ← hrows]
      simp

/-! ### Numbers in fields -/

/-- The value of an unsigned decimal numeral, whatever its number of digits. -/
def value? (t : Text) : Option Nat :=
  if isNumeral t then some (digitsValue t) else none

/-- A numeral reads as its value if it does not have too many digits. -/
lemma numeral?_of_value? {t : Text} {n : Nat} (h : value? t = some n)
    (hlength : t.length ≤ digitLimit) : numeral? t = some (.ok n) := by
  unfold value? at h
  unfold numeral? readDigits
  split at h
  · next hnumeral =>
    obtain rfl := Option.some.inj h
    rw [if_pos hnumeral, if_pos hlength]
  · cases h

section

variable (width n : Nat)

/-- A natural number in a field is filled with zeros in front. -/
lemma zeroPadded_natCast : zeroPadded width n = (digits n).leftpad width '0' := by
  unfold zeroPadded
  rw [if_neg (by omega), Int.natAbs_natCast]

lemma zeroPadded_ne_nil : zeroPadded width n ≠ [] := by
  rw [zeroPadded_natCast, List.leftpad]
  exact List.append_ne_nil_of_right_ne_nil _ Nat.toDigits_ne_nil

/-- Only digits stand in the field. -/
lemma isDigit_of_mem_zeroPadded {c : Char} (h : c ∈ zeroPadded width n) : c.isDigit = true := by
  rw [zeroPadded_natCast, List.leftpad, List.mem_append] at h
  rcases h with h | h
  · rw [List.eq_of_mem_replicate h]
    decide
  · exact Nat.isDigit_of_mem_toDigits (by decide) (by decide) h

/-- A number with no more digits than the field is wide fills the field. -/
lemma length_zeroPadded {width n : Nat} (h : (digits n).length ≤ width) :
    (zeroPadded width n).length = width := by
  rw [zeroPadded_natCast, List.length_leftpad]
  omega

/-- Of a number that has no more digits than the field is wide the field shows digits only, and as
many as it is wide. -/
lemma field_of_nonneg {width : Nat} (hwidth : 0 < width) {n : Int} (hlow : 0 ≤ n)
    (hhigh : n < 10 ^ width) :
    (zeroPadded width n).length = width ∧ ∀ c ∈ zeroPadded width n, c.isDigit = true := by
  obtain ⟨n, rfl⟩ := Int.eq_ofNat_of_zero_le hlow
  have hdigits : (digits n).length ≤ width :=
    (Nat.length_toDigits_le_iff (by decide) hwidth).mpr (by exact_mod_cast hhigh)
  exact ⟨length_zeroPadded hdigits, fun c hc => isDigit_of_mem_zeroPadded width n hc⟩

/-- A number in a field is the value of what stands there. -/
theorem value?_zeroPadded : value? (zeroPadded width n) = some n := by
  have hnumeral : isNumeral (zeroPadded width n) = true := by
    unfold isNumeral
    rw [Bool.and_eq_true, List.all_eq_true]
    exact ⟨by simpa using zeroPadded_ne_nil width n,
      fun c hc => isDigit_of_mem_zeroPadded width n hc⟩
  unfold value?
  rw [if_pos hnumeral, zeroPadded_natCast, digitsValue, List.leftpad, Nat.ofDigitChars_append,
    Nat.ofDigitChars_replicate_zero, Nat.mul_zero, digits, Nat.ofDigitChars_ten_toDigits]

end

end Text

end LittleMan
