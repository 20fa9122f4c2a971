import LittleMan.Batch.Record
import LittleMan.Proofs.Basic
import LittleMan.Proofs.Text.Limit
import LittleMan.Proofs.Text.Written

/-!
# Lines that write a record

The content of a record (`Content`) can be written on a line in many ways: with zeros in front of
the numbers, and with blanks around the numbers, around the fields and around the line
(`Content.IsWrittenAs`). Each of these lines is read as the record of that content, and no other
line is read as any record: it is malformed, and is told with its number, or a number on it is
overlong (`parse_eq_ok_iff_written`).

The fields are read one by one (`readInputs_strip_eq_ok_iff`, `readResult_strip_eq_ok_iff`,
`readBudget_strip_eq_ok_iff`). A blank field for the inputs stands for none, while a place between
two commas must not be blank.
-/

namespace LittleMan

namespace Batch

/-! ### Fields that write numbers -/

/-- The text writes the inputs: numerals with commas between them, each in blanks. -/
def WritesInputs (inputs : List Nat) (t : Text) : Prop :=
  ∃ tokens, List.Forall₂ Text.IsReadNumeralOf inputs tokens ∧
    Text.IsInBlanks (List.intercalate [','] tokens) t

/-- The text writes the result: a numeral in blanks, or only blanks if there is none. -/
def WritesResult : Option Nat → Text → Prop
  | none, t => Text.IsInBlanks [] t
  | some n, t => Text.IsReadNumeralOf n t

/-- The content of a record. -/
structure Content where
  name : Text
  inputs : List Nat
  result : Option Nat
  budget : Nat
  name_ne_nil : name ≠ []
  isTrimmed : Text.IsTrimmed name
  not_mem_name : ';' ∉ name
  inputs_le : ∀ n ∈ inputs, n ≤ 999
  result_le : ∀ n ∈ result, n ≤ 999

/-- The record of a content. -/
def Content.record (c : Content) : Record where
  name := c.name
  inputs := c.inputs.map fun n : Nat => .integer n
  expected := c.result.map fun n : Nat => (n : Int)
  budget := some c.budget

/-- The line writes the content: the four fields with semicolons between them, in blanks. -/
def Content.IsWrittenAs (c : Content) (line : Text) : Prop :=
  ∃ name inputs result budget,
    Text.IsInBlanks (List.intercalate [';'] [name, inputs, result, budget]) line ∧
    Text.IsInBlanks c.name name ∧ WritesInputs c.inputs inputs ∧ WritesResult c.result result ∧
    Text.IsReadNumeralOf c.budget budget

/-- A number on the line has `count` digits, and thereby more than are read. -/
def HasOverlong (line : Text) (count : Nat) : Prop :=
  ∃ field ∈ Record.fields line, ∃ piece ∈ field.splitOn ',',
    Text.IsOverlong piece ∧ (Text.strip piece).length = count

section

variable {t : Text}

/-- No separator stands in numerals in blanks. -/
lemma not_mem_of_forall₂ {a : Char} {inputs : List Nat} {tokens : List Text}
    (hblank : Text.isBlank a = false) (hdigit : a.isDigit = false)
    (h : List.Forall₂ Text.IsReadNumeralOf inputs tokens) : ∀ token ∈ tokens, a ∉ token := by
  induction h with
  | nil => exact nofun
  | cons hnumeral _ ih =>
    exact List.forall_mem_cons.mpr ⟨hnumeral.isSpaced.not_mem hblank hdigit, ih⟩

/-! ### Reading the fields -/

/-- A word is read from its numerals. -/
lemma readWord_strip_eq_ok_iff {field : Record.WordField} {w : Int} :
    Record.readWord field (Text.strip t) = .ok w ↔
      ∃ n : Nat, n ≤ 999 ∧ Text.IsReadNumeralOf n t ∧ w = n := by
  simp only [← Text.numeral?_strip_eq_some_iff]
  unfold Record.readWord
  cases Text.numeral? (Text.strip t) with
  | none => simp
  | some read =>
    cases read with
    | error o => simp
    | ok n =>
      by_cases h : n ≤ 999
      · simp [h, eq_comm]
      · simp [h]

/-- Words are read from numerals, one from each. -/
lemma forall₂_readWord_iff {tokens : List Text} {words : List Int} :
    List.Forall₂ (fun token w => Record.readWord .input (Text.strip token) = .ok w) tokens words ↔
      ∃ inputs : List Nat, (∀ n ∈ inputs, n ≤ 999) ∧
        List.Forall₂ Text.IsReadNumeralOf inputs tokens ∧
        words = inputs.map fun n : Nat => (n : Int) := by
  simp only [readWord_strip_eq_ok_iff]
  exact forall₂_natCast_iff

/-- The inputs are read from the texts that write them. -/
lemma readInputs_strip_eq_ok_iff {words : List Int} :
    Record.readInputs (Text.strip t) = .ok words ↔ ∃ inputs : List Nat,
      (∀ n ∈ inputs, n ≤ 999) ∧ WritesInputs inputs t ∧
        words = inputs.map fun n : Nat => (n : Int) := by
  unfold Record.readInputs
  constructor
  · intro h
    split at h
    · next hempty =>
      obtain rfl := Except.ok.inj h
      have hblank := Text.isInBlanks_strip t
      rw [List.isEmpty_iff.mp hempty] at hblank
      exact ⟨[], nofun, ⟨[], .nil, hblank⟩, rfl⟩
    · obtain ⟨inputs, hle, hnumerals, hwords⟩ := forall₂_readWord_iff.mp (mapM_eq_ok_iff.mp h)
      refine ⟨inputs, hle, ⟨_, hnumerals, ?_⟩, hwords⟩
      rw [List.intercalate_splitOn]
      exact Text.isInBlanks_strip t
  · rintro ⟨inputs, hle, ⟨tokens, hnumerals, hblanks⟩, hwords⟩
    have hread := mapM_eq_ok_iff.mpr (forall₂_readWord_iff.mpr ⟨inputs, hle, hnumerals, hwords⟩)
    cases hnumerals with
    | nil =>
      rw [Text.strip_eq_iff.mpr ⟨Text.isTrimmed_nil, hblanks⟩]
      exact hread
    | @cons n token inputs tokens hnumeral hnumerals =>
      have hcomma : ∀ part ∈ token :: tokens, ',' ∉ part :=
        not_mem_of_forall₂ (by decide) (by decide) (.cons hnumeral hnumerals)
      have hparts : ((Text.strip t).splitOn ',').map Text.strip =
          (token :: tokens).map Text.strip := by
        rw [← Text.map_strip_splitOn (by decide) (Text.isInBlanks_strip t)]
        exact Text.map_strip_splitOn_of_intercalate (by decide) hcomma (List.cons_ne_nil _ _)
          hblanks
      have hne : ¬ (Text.strip t).isEmpty = true := by
        intro hempty
        rw [List.isEmpty_iff.mp hempty] at hparts
        exact hnumeral.isSpaced.strip_ne_nil (List.cons.inj hparts).1.symm
      have hstripped (texts : List Text) :
          texts.mapM (fun text => Record.readWord .input (Text.strip text)) =
            (texts.map Text.strip).mapM (Record.readWord .input) := by
        rw [List.mapM_map]
        rfl
      rw [if_neg hne, hstripped, hparts, ← hstripped]
      exact hread

/-- The result is read from the texts that write it. -/
lemma readResult_strip_eq_ok_iff {expected : Option Int} :
    Record.readResult (Text.strip t) = .ok expected ↔ ∃ result : Option Nat,
      (∀ n ∈ result, n ≤ 999) ∧ WritesResult result t ∧
        expected = result.map fun n : Nat => (n : Int) := by
  unfold Record.readResult
  constructor
  · intro h
    split at h
    · next hempty =>
      obtain rfl := Except.ok.inj h
      have hblank := Text.isInBlanks_strip t
      rw [List.isEmpty_iff.mp hempty] at hblank
      exact ⟨none, nofun, hblank, rfl⟩
    · obtain ⟨w, hw, rfl⟩ := map_eq_ok_iff.mp h
      obtain ⟨n, hle, hnumeral, rfl⟩ := readWord_strip_eq_ok_iff.mp hw
      exact ⟨some n, fun _ hn => Option.some.inj hn ▸ hle, hnumeral, rfl⟩
  · rintro ⟨result, hle, hwrites, rfl⟩
    cases result with
    | none =>
      rw [Text.strip_eq_iff.mpr ⟨Text.isTrimmed_nil, hwrites⟩]
      rfl
    | some n =>
      have hne : Text.strip t ≠ [] := hwrites.isSpaced.strip_ne_nil
      rw [if_neg fun hempty => hne (List.isEmpty_iff.mp hempty)]
      exact map_eq_ok_iff.mpr ⟨n, readWord_strip_eq_ok_iff.mpr ⟨n, hle n rfl, hwrites, rfl⟩, rfl⟩

/-- The budget is read from its numerals. -/
lemma readBudget_strip_eq_ok_iff {n : Nat} :
    Record.readBudget (Text.strip t) = .ok n ↔ Text.IsReadNumeralOf n t := by
  rw [← Text.numeral?_strip_eq_some_iff]
  unfold Record.readBudget
  split
  · next hempty =>
    rw [List.isEmpty_iff.mp hempty]
    exact ⟨nofun, nofun⟩
  · cases Text.numeral? (Text.strip t) with
    | none => exact ⟨nofun, nofun⟩
    | some read => cases read <;> simp

/-! ### Fields that overflow -/

variable {o : Text.Overflow}

/-- The reading of a word overflows only if that of the numeral does. -/
lemma numeral?_of_readWord {field : Record.WordField}
    (h : Record.readWord field t = .error (.overflow o)) : Text.numeral? t = some (.error o) := by
  unfold Record.readWord at h
  split at h
  · cases h
  · next hnumeral =>
    obtain rfl := Record.Defect.overflow.inj (Except.error.inj h)
    exact hnumeral
  · split at h <;> cases h

/-- The reading of the inputs overflows only on an overlong text between commas. -/
lemma exists_isOverlong_of_readInputs (h : Record.readInputs t = .error (.overflow o)) :
    ∃ piece ∈ t.splitOn ',', Text.IsOverlong piece ∧ o = .reading (Text.strip piece).length := by
  unfold Record.readInputs at h
  split at h
  · cases h
  · obtain ⟨before, piece, after, hsplit, -, hrefused⟩ := mapM_eq_error_iff.mp h
    refine ⟨piece, hsplit ▸ List.mem_append_right before List.mem_cons_self, ?_⟩
    exact Text.numeral?_strip_eq_some_error_iff.mp (numeral?_of_readWord hrefused)

/-- That of the result overflows only on an overlong text. -/
lemma isOverlong_of_readResult (h : Record.readResult t = .error (.overflow o)) :
    Text.IsOverlong t ∧ o = .reading (Text.strip t).length := by
  unfold Record.readResult at h
  split at h
  · cases h
  · exact Text.isOverlong_of_numeral? (numeral?_of_readWord (map_eq_error_iff.mp h))

/-- So does that of the budget. -/
lemma isOverlong_of_readBudget (h : Record.readBudget t = .error (.overflow o)) :
    Text.IsOverlong t ∧ o = .reading (Text.strip t).length := by
  unfold Record.readBudget at h
  split at h
  · cases h
  · split at h
    · cases h
    · next hnumeral =>
      obtain rfl := Record.Defect.overflow.inj (Except.error.inj h)
      exact Text.isOverlong_of_numeral? hnumeral
    · cases h

end

/-! ### Reading the line -/

section

variable {line : Text}

/-- Four texts are read as a record if the fields write it. -/
lemma ofFields_strip_eq_ok_iff {name inputs result budget : Text} {r : Record}
    (hname : ';' ∉ name) :
    Record.ofFields ([name, inputs, result, budget].map Text.strip) = .ok r ↔
      ∃ c : Content, Text.IsInBlanks c.name name ∧ WritesInputs c.inputs inputs ∧
        WritesResult c.result result ∧ Text.IsReadNumeralOf c.budget budget ∧ r = c.record := by
  simp only [List.map_cons, List.map_nil, Record.ofFields]
  constructor
  · intro h
    split at h
    · cases h
    · next hne =>
      obtain ⟨words, hwords, h⟩ := bind_eq_ok_iff.mp h
      obtain ⟨expected, hexpected, h⟩ := bind_eq_ok_iff.mp h
      obtain ⟨n, hn, h⟩ := bind_eq_ok_iff.mp h
      obtain rfl := Except.ok.inj h
      obtain ⟨numbers, hnumbers, hinputs, rfl⟩ := readInputs_strip_eq_ok_iff.mp hwords
      obtain ⟨number?, hnumber?, hresult, rfl⟩ := readResult_strip_eq_ok_iff.mp hexpected
      have hblanks := Text.isInBlanks_strip name
      have hname' : ';' ∉ Text.strip name := fun hmem => hname (hblanks.mem hmem)
      refine ⟨⟨Text.strip name, numbers, number?, n, ?_, Text.isTrimmed_strip name, hname',
        hnumbers, hnumber?⟩, hblanks, hinputs, hresult, readBudget_strip_eq_ok_iff.mp hn, ?_⟩
      · simpa using hne
      · simp [Content.record]
  · rintro ⟨c, hblanks, hinputs, hresult, hbudget, rfl⟩
    have hstrip : Text.strip name = c.name := Text.strip_eq_iff.mpr ⟨c.isTrimmed, hblanks⟩
    have hne : ¬ (Text.strip name).isEmpty = true := by
      rw [hstrip, List.isEmpty_iff]
      exact c.name_ne_nil
    rw [if_neg hne, hstrip,
      readInputs_strip_eq_ok_iff.mpr ⟨c.inputs, c.inputs_le, hinputs, rfl⟩,
      readResult_strip_eq_ok_iff.mpr ⟨c.result, c.result_le, hresult, rfl⟩,
      readBudget_strip_eq_ok_iff.mpr hbudget]
    simp [Content.record, bind, Except.bind, pure, Except.pure]

/-- No semicolon stands in the fields that write a content. -/
lemma Content.not_mem_fields {c : Content} {name inputs result budget : Text}
    (hname : Text.IsInBlanks c.name name) (hinputs : WritesInputs c.inputs inputs)
    (hresult : WritesResult c.result result) (hbudget : Text.IsReadNumeralOf c.budget budget) :
    ∀ part ∈ [name, inputs, result, budget], ';' ∉ part := by
  have hinputs' : ';' ∉ inputs := by
    obtain ⟨tokens, hnumerals, hblanks⟩ := hinputs
    have htokens := not_mem_of_forall₂ (a := ';') (by decide) (by decide) hnumerals
    exact hblanks.not_mem (by decide) (Text.not_mem_intercalate (by decide) htokens)
  have hresult' : ';' ∉ result := by
    cases hc : c.result with
    | none =>
      rw [hc] at hresult
      exact Text.IsInBlanks.not_mem hresult (by decide) List.not_mem_nil
    | some n =>
      rw [hc] at hresult
      exact hresult.isSpaced.not_mem (by decide) (by decide)
  simp only [List.forall_mem_cons, List.not_mem_nil, false_implies, implies_true, and_true]
  exact ⟨hname.not_mem (by decide) c.not_mem_name, hinputs', hresult',
    hbudget.isSpaced.not_mem (by decide) (by decide)⟩

/-- Only four fields make a record. -/
lemma length_of_ofFields_eq_ok {texts : List Text} {r : Record}
    (h : Record.ofFields texts = .ok r) : texts.length = 4 := by
  unfold Record.ofFields at h
  split at h
  · rfl
  · cases h

/-- A line is read as the record that it writes, and as no other. -/
lemma ofFields_fields_eq_ok_iff {r : Record} :
    Record.ofFields (Record.fields line) = .ok r ↔
      ∃ c : Content, c.IsWrittenAs line ∧ r = c.record := by
  unfold Record.fields
  constructor
  · intro h
    have hlength := length_of_ofFields_eq_ok h
    rw [List.length_map] at hlength
    have hsemicolon := Text.not_mem_of_mem_splitOn ';' (Text.strip line)
    have hjoined : List.intercalate [';'] ((Text.strip line).splitOn ';') = Text.strip line :=
      List.intercalate_splitOn ';'
    generalize (Text.strip line).splitOn ';' = parts at h hlength hsemicolon hjoined
    match parts, hlength with
    | [name, inputs, result, budget], _ =>
      obtain ⟨c, hname, hinputs, hresult, hbudget, hr⟩ :=
        (ofFields_strip_eq_ok_iff (hsemicolon name List.mem_cons_self)).mp h
      refine ⟨c, ⟨name, inputs, result, budget, ?_, hname, hinputs, hresult, hbudget⟩, hr⟩
      rw [hjoined]
      exact Text.isInBlanks_strip line
  · rintro ⟨c, ⟨name, inputs, result, budget, hblanks, hname, hinputs, hresult, hbudget⟩, rfl⟩
    have hsemicolon := c.not_mem_fields hname hinputs hresult hbudget
    have hfields := Text.map_strip_splitOn_of_intercalate (by decide) hsemicolon
      (List.cons_ne_nil _ _) hblanks
    rw [← Text.map_strip_splitOn (by decide) (Text.isInBlanks_strip line), hfields]
    exact (ofFields_strip_eq_ok_iff (hsemicolon name List.mem_cons_self)).mpr
      ⟨c, hname, hinputs, hresult, hbudget, rfl⟩

/-- What is read of a line is what is read of its fields. -/
lemma parse_eq_ok_iff_ofFields {number : Int} {r : Record} :
    Record.parse number line = .ok r ↔ Record.ofFields (Record.fields line) = .ok r := by
  unfold Record.parse
  cases Record.ofFields (Record.fields line) with
  | ok r' => simp
  | error defect => cases defect <;> exact ⟨nofun, nofun⟩

/-- The reading of four fields overflows only on an overlong number. -/
lemma exists_isOverlong_of_ofFields {texts : List Text} {o : Text.Overflow}
    (h : Record.ofFields texts = .error (.overflow o)) : ∃ field ∈ texts,
      ∃ piece ∈ field.splitOn ',',
        Text.IsOverlong piece ∧ o = .reading (Text.strip piece).length := by
  have hwhole {field : Text}
      (h : Text.IsOverlong field ∧ o = .reading (Text.strip field).length) :
      ∃ piece ∈ field.splitOn ',',
        Text.IsOverlong piece ∧ o = .reading (Text.strip piece).length := by
    -- an overlong field has no comma
    refine ⟨field, ?_, h⟩
    rw [List.splitOn_eq_singleton (h.1.not_mem (by decide) (by decide))]
    exact List.mem_singleton_self field
  unfold Record.ofFields at h
  split at h
  · next name inputs result budget =>
    split at h
    · cases h
    · rcases bind_eq_error_iff.mp h with hinputs | ⟨_, -, h⟩
      · exact ⟨inputs, by simp, exists_isOverlong_of_readInputs hinputs⟩
      rcases bind_eq_error_iff.mp h with hresult | ⟨_, -, h⟩
      · exact ⟨result, by simp, hwhole (isOverlong_of_readResult hresult)⟩
      rcases bind_eq_error_iff.mp h with hbudget | ⟨_, -, h⟩
      · exact ⟨budget, by simp, hwhole (isOverlong_of_readBudget hbudget)⟩
      cases h
  · cases h

/-- A line that is not read is malformed, which is told with its number and its text, or a number is
overlong: one on the line, or that of the line. -/
lemma refusal_of_parse {number : Int} {refusal : Record.Refusal}
    (h : Record.parse number line = .error refusal) :
    (∃ cause, refusal = .malformed ⟨cause, number, line⟩) ∨
    (∃ count, HasOverlong line count ∧ refusal = .overflow (.reading count)) ∨
      Text.isWritable number = false ∧ refusal = .overflow .writing := by
  unfold Record.parse at h
  split at h
  · cases h
  · next cause _ =>
    obtain rfl := Except.error.inj h
    unfold Record.refuse
    split
    · exact .inl ⟨cause, rfl⟩
    · next hwriting =>
      obtain ⟨⟨n, hn, hlong⟩, rfl⟩ := Text.withIntegers_eq_error_iff.mp hwriting
      obtain rfl := List.mem_singleton.mp hn
      exact .inr (.inr ⟨hlong, rfl⟩)
  · next hoverflow =>
    obtain rfl := Except.error.inj h
    obtain ⟨field, hfield, piece, hpiece, hoverlong, rfl⟩ := exists_isOverlong_of_ofFields hoverflow
    exact .inr (.inl ⟨_, ⟨field, hfield, piece, hpiece, hoverlong, rfl⟩, rfl⟩)

end

/-! ### What is read -/

/-- A record that is read is that of a content whose budget can be written. -/
lemma exists_content_of_parse {number : Int} {line : Text} {r : Record}
    (h : Record.parse number line = .ok r) :
    ∃ c : Content, r = c.record ∧ Text.isWritable c.budget = true := by
  obtain ⟨c, ⟨_, _, _, budget, -, -, -, -, hbudget⟩, rfl⟩ :=
    ofFields_fields_eq_ok_iff.mp (parse_eq_ok_iff_ofFields.mp h)
  exact ⟨c, rfl, Text.isWritable_of_numeral? (Text.numeral?_strip_eq_some_iff.mpr hbudget)⟩

/-! ### The written form -/

/-- The line of a content, without any blanks or zeros that could be left out. -/
def Content.line (c : Content) : Text :=
  List.intercalate [';'] [c.name, List.intercalate [','] (c.inputs.map Text.digits),
    (c.result.map Text.digits).getD [], Text.digits c.budget]

/-- The digits of a number that can be written are a numeral that is read. -/
lemma isReadNumeralOf_digits {n : Nat} (h : Text.isWritable n = true) :
    Text.IsReadNumeralOf n (Text.digits n) := by
  have hnumeral : Text.IsNumeralOf n (Text.digits n) := ⟨0, rfl⟩
  refine ⟨⟨_, hnumeral, Text.isInBlanks_self _⟩, ?_⟩
  rw [Text.strip_eq_iff.mpr ⟨hnumeral.isTrimmed, Text.isInBlanks_self _⟩]
  exact of_decide_eq_true h

/-- Those of a word are. -/
lemma isReadNumeralOf_digits_of_le {n : Nat} (h : n ≤ 999) :
    Text.IsReadNumeralOf n (Text.digits n) :=
  isReadNumeralOf_digits (Text.isWritable_of_isWord ⟨Int.natCast_nonneg n, by omega⟩)

/-- The line of a content writes it, if the budget can be written. -/
lemma Content.isWrittenAs_line {c : Content} (h : Text.isWritable c.budget = true) :
    c.IsWrittenAs c.line := by
  refine ⟨_, _, _, _, Text.isInBlanks_self _, Text.isInBlanks_self _,
    ⟨c.inputs.map Text.digits, ?_, Text.isInBlanks_self _⟩, ?_, isReadNumeralOf_digits h⟩
  · rw [List.forall₂_map_right_iff, List.forall₂_same]
    exact fun n hn => isReadNumeralOf_digits_of_le (c.inputs_le n hn)
  · cases hresult : c.result with
    | none => exact Text.isInBlanks_self []
    | some n => exact isReadNumeralOf_digits_of_le (c.result_le n hresult)

/-- The line of a content is read as the record of it, if the budget can be written. -/
theorem parse_line {c : Content} (h : Text.isWritable c.budget = true) (number : Int) :
    Record.parse number c.line = .ok c.record :=
  parse_eq_ok_iff_ofFields.mpr (ofFields_fields_eq_ok_iff.mpr ⟨c, Content.isWrittenAs_line h, rfl⟩)

/-! ### The language of records -/

/-- Reading a line undoes writing a record. A line is read as a record exactly if it writes the
content of it, whatever zeros stand in front of its numbers and whatever blanks stand around its
numbers and fields and around the line, so long as no number has more digits than are read. Every
other line is malformed, which is told with the number and the text of the line, unless a number on
it is overlong, or its own number is, which cannot be told then: these overflow. -/
theorem parse_eq_ok_iff_written (number : Int) (line : Text) :
    (∀ r, Record.parse number line = .ok r ↔ ∃ c : Content, c.IsWrittenAs line ∧ r = c.record) ∧
    ∀ refusal, Record.parse number line = .error refusal →
      (∃ cause, refusal = .malformed ⟨cause, number, line⟩) ∨
      (∃ count, HasOverlong line count ∧ refusal = .overflow (.reading count)) ∨
        Text.isWritable number = false ∧ refusal = .overflow .writing :=
  ⟨fun _ => parse_eq_ok_iff_ofFields.trans ofFields_fields_eq_ok_iff, fun _ => refusal_of_parse⟩

/-- Blanks, also one that is no space, and zeros are passed over; a blank place for an input is
not. -/
example : Record.parse 4 " t ;05 ,\u00A03;\t; 50\n" =
      .ok { name := "t", inputs := [.integer 5, .integer 3], budget := some 50 } ∧
    Record.parse 4 "t;5,;;50" = .error (.malformed ⟨.notDecimal .input [], 4, "t;5,;;50"⟩) := by
  decide +kernel

end Batch

end LittleMan
