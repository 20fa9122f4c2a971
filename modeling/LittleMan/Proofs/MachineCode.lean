import LittleMan.MachineCode
import LittleMan.Proofs.Basic
import LittleMan.Proofs.Text.Fields
import LittleMan.Proofs.Text.Plain
import Mathlib.Data.List.TakeWhile

/-!
# Written machine code

The written form of a list of words is a row of three digits for each word (`lines_render`,
`row_of_isWord`), and it reads as the words that it was written from (`parse_render`): a row has no
comment, no comma and no blank, so that it is a single token, and the token reads as the word.
The written form also goes through a file unchanged (`decode_render`). Nothing but words comes of
any text that is read (`isWord_of_parse`).
-/

namespace LittleMan

namespace MachineCode

/-! ### Digits and rows -/

/-- A character of ASCII that neither separates nor ends anything in a machine-code text. -/
structure Inert (c : Char) : Prop where
  isAscii : c.toNat < 0x80
  not_blank : Text.isBlank c = false
  not_lineBreak : Text.isLineBreak c = false
  ne_comment : c ≠ '#'
  ne_comma : c ≠ ','
  ne_return : c ≠ '\r'

/-- A digit or a letter of ASCII is such a character. -/
lemma inert_of_isAlphanum {c : Char} (h : c.isAlphanum = true) : Inert c := by
  have hbounds : (48 ≤ c.toNat ∧ c.toNat ≤ 57) ∨ (65 ≤ c.toNat ∧ c.toNat ≤ 122) := by
    unfold Char.isAlphanum Char.isAlpha Char.isUpper Char.isLower Char.isDigit at h
    simp only [Bool.or_eq_true, Bool.and_eq_true, decide_eq_true_iff, UInt32.le_iff_toNat_le] at h
    change ((65 ≤ c.toNat ∧ c.toNat ≤ 90) ∨ (97 ≤ c.toNat ∧ c.toNat ≤ 122)) ∨
      (48 ≤ c.toNat ∧ c.toNat ≤ 57) at h
    omega
  have hne : ∀ d : Char, d.toNat < 48 → c ≠ d := by
    rintro d hd rfl
    omega
  refine ⟨by omega, ?_, ?_, hne _ (by decide), hne _ (by decide), hne _ (by decide)⟩
  · unfold Text.isBlank
    simp
    omega
  · unfold Text.isLineBreak
    simp
    omega

/-- A digit is such a character. -/
lemma inert_of_isDigit {c : Char} (h : c.isDigit = true) : Inert c :=
  inert_of_isAlphanum (by unfold Char.isAlphanum; rw [h, Bool.or_true])

/-- A word is a natural number of at most three digits. -/
lemma exists_eq_natCast_of_isWord {w : Int} (h : IsWord w) : ∃ n : Nat, n ≤ 999 ∧ w = n := by
  obtain ⟨hlow, hhigh⟩ := h
  obtain ⟨n, rfl⟩ := Int.eq_ofNat_of_zero_le hlow
  exact ⟨n, by omega, rfl⟩

/-- The row of a word is three digits. -/
lemma row_of_isWord {w : Int} (h : IsWord w) :
    (Text.zeroPadded 3 w).length = 3 ∧ ∀ c ∈ Text.zeroPadded 3 w, c.isDigit = true :=
  Text.field_of_nonneg (by decide) h.1 (Int.lt_add_one_of_le h.2)

/-- A row of digits is a single token. -/
lemma tokens_of_isDigit {row : Text} (hne : row ≠ []) (h : ∀ c ∈ row, c.isDigit = true) :
    tokens row = [row] := by
  have hbefore : Text.before '#' row = row :=
    Text.before_eq_self fun hc => (inert_of_isDigit (h '#' hc)).ne_comment rfl
  have hsplit : row.splitOn ',' = [row] :=
    List.splitOn_eq_singleton fun hc => (inert_of_isDigit (h ',' hc)).ne_comma rfl
  have hblank : ∀ t : Text, (∀ c ∈ t, c.isDigit = true) → t.dropWhile Text.isBlank = t := by
    intro t ht
    cases t with
    | nil => rfl
    | cons c t =>
      refine List.dropWhile_cons_of_neg ?_
      rw [(inert_of_isDigit (ht c List.mem_cons_self)).not_blank]
      decide
  have hstrip : Text.strip row = row := by
    unfold Text.strip Text.dropEndWhile
    rw [hblank row h, hblank row.reverse fun c hc => h c (List.mem_reverse.mp hc),
      List.reverse_reverse]
  unfold tokens
  rw [hbefore, hsplit, List.map_singleton, hstrip]
  simp [hne]

/-! ### Reading what was written -/

section

variable {words : List Int}

/-- Every character of a row is a digit. -/
lemma isDigit_of_mem_row (h : ∀ w ∈ words, IsWord w) :
    ∀ row ∈ words.map (Text.zeroPadded 3), ∀ c ∈ row, c.isDigit = true := by
  intro row hrow
  obtain ⟨w, hw, rfl⟩ := List.mem_map.mp hrow
  exact (row_of_isWord (h w hw)).2

/-- The lines of the written form are its rows. -/
theorem lines_render (h : ∀ w ∈ words, IsWord w) :
    Text.lines (render words) = words.map (Text.zeroPadded 3) :=
  Text.lines_closeRows fun row hrow c hc =>
    (inert_of_isDigit (isDigit_of_mem_row h row hrow c hc)).not_lineBreak

/-- A character of the written form is a digit or closes a row. -/
lemma isDigit_or_eq_of_mem_render (h : ∀ w ∈ words, IsWord w) {c : Char} (hc : c ∈ render words) :
    c.isDigit = true ∨ c = '\n' := by
  obtain ⟨row, hrow, hc⟩ := List.mem_flatMap.mp hc
  rcases List.mem_append.mp hc with hc | hc
  · exact Or.inl (isDigit_of_mem_row h row hrow c hc)
  · exact Or.inr (List.mem_singleton.mp hc)

/-- The written form goes through a file unchanged. -/
theorem decode_render (h : ∀ w ∈ words, IsWord w) :
    Text.Utf8.decode (Text.Utf8.encode (render words)) = .ok (render words) ∧
      Text.unifyBreaks (render words) = render words := by
  refine ⟨Text.decode_encode_of_isAscii fun c hc => ?_, Text.unifyBreaks_eq_self fun hc => ?_⟩
  · rcases isDigit_or_eq_of_mem_render h hc with hdigit | rfl
    · exact (inert_of_isDigit hdigit).isAscii
    · decide
  · rcases isDigit_or_eq_of_mem_render h hc with hdigit | hfeed
    · exact (inert_of_isDigit hdigit).ne_return rfl
    · cases hfeed

/-- The row of a word is a single token, which reads as the word. -/
lemma tokens_readToken_row {w : Int} (h : IsWord w) (number : Nat) :
    tokens (Text.zeroPadded 3 w) = [Text.zeroPadded 3 w] ∧
      readToken (number, Text.zeroPadded 3 w) = .ok w := by
  obtain ⟨hlength, hdigits⟩ := row_of_isWord h
  have hne : Text.zeroPadded 3 w ≠ [] := List.ne_nil_of_length_eq_add_one hlength
  refine ⟨tokens_of_isDigit hne hdigits, ?_⟩
  obtain ⟨n, hn, rfl⟩ := exists_eq_natCast_of_isWord h
  have hnumeral := Text.numeral?_of_value? (Text.value?_zeroPadded 3 n)
    (by rw [hlength]; decide)
  simp only [readToken, hnumeral, if_pos hn]

/-- The rows of words read as the words, whatever number the first row has. -/
lemma mapM_readToken_rows (h : ∀ w ∈ words, IsWord w) (number : Nat) :
    (((words.map (Text.zeroPadded 3)).zipIdx number).flatMap fun (line, number) =>
      (tokens line).map (number, ·)).mapM readToken = .ok words := by
  induction words generalizing number with
  | nil => rfl
  | cons w words ih =>
    obtain ⟨htokens, hread⟩ := tokens_readToken_row (h w List.mem_cons_self) number
    have hrest := ih (fun w' hw' => h w' (List.mem_cons_of_mem w hw')) (number + 1)
    rw [List.map_cons, List.zipIdx_cons, List.flatMap_cons]
    dsimp only
    rw [htokens, List.map_singleton, List.singleton_append, List.mapM_cons, hread, hrest]
    rfl

/-- The written form reads as the words that it was written from. -/
theorem parse_render (h : ∀ w ∈ words, IsWord w) : parse (render words) = .ok words := by
  unfold parse numberedTokens
  rw [lines_render h]
  exact mapM_readToken_rows h 1

end

/-! ### Reading any text -/

/-- What a token reads as is a word. -/
lemma isWord_of_readToken {place : Nat × Text} {w : Int} (h : readToken place = .ok w) :
    IsWord w := by
  unfold readToken at h
  dsimp only at h
  split at h
  · cases h
  · cases h
  · split at h
    · next value _ hle =>
      obtain rfl := Except.ok.inj h
      unfold IsWord
      omega
    · cases h

/-- What a text reads as are words. -/
theorem isWord_of_parse {t : Text} {words : List Int} (h : parse t = .ok words) :
    ∀ w ∈ words, IsWord w := by
  have hread : ((numberedTokens t).map readToken).mapM id = .ok words := by
    rw [List.mapM_map]
    exact h
  rw [mapM_id_eq_ok_iff] at hread
  intro w hw
  have hmem : Except.ok w ∈ (numberedTokens t).map readToken := hread ▸ List.mem_map_of_mem hw
  obtain ⟨place, -, hplace⟩ := List.mem_map.mp hmem
  exact isWord_of_readToken hplace

end MachineCode

end LittleMan
