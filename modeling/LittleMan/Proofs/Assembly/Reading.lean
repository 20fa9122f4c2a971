import LittleMan.Proofs.Assembly.Language
import LittleMan.Proofs.Basic
import LittleMan.Proofs.Text.Fields

/-!
# Reading single lines

The checks that the first pass makes on a line, compared with the language: names
(`isName_iff`), mnemonics (`isMnemonic_iff`), labels (`checkLabel_eq_ok_iff`) and whole lines
(`statement?_eq_ok_none_iff`, `statement?_eq_ok_some_iff`).
-/

namespace LittleMan

namespace Assembly

/-! ### Names and literals -/

/-- The digits of ASCII are the decimal digits. -/
lemma isDigit_iff (c : Char) : c.isDigit = true ↔ IsDecimalDigit c := by
  unfold IsDecimalDigit Char.isDigit
  rw [Bool.and_eq_true, decide_eq_true_iff, decide_eq_true_iff]
  rfl

/-- The characters that may open a name are the letters and the underscore. -/
lemma opensName_iff (c : Char) : opensName c = true ↔ IsNameLetter c := by
  unfold opensName IsNameLetter Char.isAlpha Char.isUpper Char.isLower
  simp only [Bool.or_eq_true, Bool.and_eq_true, decide_eq_true_iff, beq_iff_eq, or_assoc]
  rfl

/-- The check on names accepts the names. -/
lemma isName_iff (t : Text) : isName t = true ↔ IsWellFormedName t := by
  unfold IsWellFormedName
  cases t with
  | nil => simp [isName]
  | cons c rest =>
    simp only [isName, Bool.and_eq_true, List.all_eq_true, Bool.or_eq_true, opensName_iff,
      isDigit_iff]
    constructor
    · rintro ⟨hc, hrest⟩
      exact ⟨c, rest, rfl, hc, hrest⟩
    · rintro ⟨c', rest', heq, hc, hrest⟩
      obtain ⟨rfl, rfl⟩ := List.cons.inj heq
      exact ⟨hc, hrest⟩

/-- The check on numerals accepts the literals. -/
lemma isNumeral_iff (t : Text) : Text.isNumeral t = true ↔ IsLiteral t := by
  unfold Text.isNumeral IsLiteral
  simp only [Bool.and_eq_true, Bool.not_eq_true', List.isEmpty_eq_false_iff, List.all_eq_true,
    isDigit_iff, ne_eq]

/-- No decimal digit is a letter or the underscore. -/
lemma not_isNameLetter_of_isDecimalDigit {c : Char} (h : IsDecimalDigit c) : ¬ IsNameLetter c := by
  obtain ⟨-, hle⟩ := h
  rintro (⟨hA, -⟩ | ⟨ha, -⟩ | rfl)
  · exact absurd (Char.le_trans hA hle) (by decide)
  · exact absurd (Char.le_trans ha hle) (by decide)
  · exact absurd hle (by decide)

/-- No name is a literal. -/
lemma IsWellFormedName.not_isLiteral {t : Text} (h : IsWellFormedName t) : ¬ IsLiteral t := by
  obtain ⟨c, rest, rfl, hc, -⟩ := h
  rintro ⟨-, hdigits⟩
  exact not_isNameLetter_of_isDecimalDigit (hdigits c List.mem_cons_self) hc

/-- No name is a negative literal. -/
lemma IsWellFormedName.isNegativeLiteral_eq_false {t : Text} (h : IsWellFormedName t) :
    isNegativeLiteral t = false := by
  obtain ⟨c, rest, rfl, hc, -⟩ := h
  have hne : c ≠ '-' := by
    rintro rfl
    revert hc
    unfold IsNameLetter
    decide
  unfold isNegativeLiteral
  split
  · next heq => exact absurd (List.cons.inj heq).1 hne
  · rfl

/-- The last character of a name is no colon. -/
lemma IsWellFormedName.getLast?_ne_colon {t : Text} (h : IsWellFormedName t) :
    t.getLast? ≠ some ':' := by
  obtain ⟨c, rest, rfl, hc, hrest⟩ := h
  intro hlast
  have hmem : ':' ∈ c :: rest := List.mem_of_getLast? hlast
  have hnot : ¬ (IsNameLetter ':' ∨ IsDecimalDigit ':') := by
    unfold IsNameLetter IsDecimalDigit
    decide
  rcases List.mem_cons.mp hmem with rfl | hmem
  · exact hnot (Or.inl hc)
  · exact hnot (hrest ':' hmem)

/-! ### Mnemonics -/

/-- An addressed mnemonic of the language is one of the assembler, with the same words. -/
lemma form?_of_mem_addressedWords {m : Text} {base : Int} (h : (m, base) ∈ addressedWords) :
    ∃ make, form? m = some (.addressed make) ∧ ∀ a, (make a).encode = base + a := by
  simp only [addressedWords, List.mem_cons, List.not_mem_nil, or_false, Prod.mk.injEq] at h
  rcases h with ⟨rfl, rfl⟩ | ⟨rfl, rfl⟩ | ⟨rfl, rfl⟩ | ⟨rfl, rfl⟩ | ⟨rfl, rfl⟩ | ⟨rfl, rfl⟩ |
    ⟨rfl, rfl⟩ | ⟨rfl, rfl⟩
  all_goals exact ⟨_, rfl, fun _ => rfl⟩

/-- A fixed mnemonic of the language is one of the assembler, with the same word. -/
lemma form?_of_mem_fixedWords {m : Text} {word : Int} (h : (m, word) ∈ fixedWords) :
    ∃ i, form? m = some (.fixed i) ∧ i.encode = word := by
  simp only [fixedWords, List.mem_cons, List.not_mem_nil, or_false, Prod.mk.injEq] at h
  rcases h with ⟨rfl, rfl⟩ | ⟨rfl, rfl⟩ | ⟨rfl, rfl⟩ | ⟨rfl, rfl⟩
  all_goals exact ⟨_, rfl, rfl⟩

/-- The data directive of the language is that of the assembler. -/
lemma form?_dataDirective : form? dataDirective = some .data := rfl

/-- What the language says of a mnemonic with a given form. -/
def Form.Stands (m : Text) : Form → Prop
  | .data => m = dataDirective
  | .fixed i => (m, i.encode) ∈ fixedWords
  | .addressed make => ∃ base, (m, base) ∈ addressedWords ∧ ∀ a, (make a).encode = base + a

/-- A mnemonic of the assembler is one of the language, with the same words. -/
lemma stands_of_form? {m : Text} {form : Form} (h : form? m = some form) : form.Stands m := by
  have hmem : (m, form) ∈ mnemonics := mem_of_lookup_eq_some h
  simp only [mnemonics, List.mem_cons, List.not_mem_nil, or_false, Prod.mk.injEq] at hmem
  rcases hmem with ⟨rfl, rfl⟩ | ⟨rfl, rfl⟩ | ⟨rfl, rfl⟩ | ⟨rfl, rfl⟩ | ⟨rfl, rfl⟩ | ⟨rfl, rfl⟩ |
    ⟨rfl, rfl⟩ | ⟨rfl, rfl⟩ | ⟨rfl, rfl⟩ | ⟨rfl, rfl⟩ | ⟨rfl, rfl⟩ | ⟨rfl, rfl⟩ | ⟨rfl, rfl⟩
  iterate 8 exact ⟨_, by decide, fun _ => rfl⟩
  iterate 4 (unfold Form.Stands; decide)
  exact rfl

/-- The mnemonics that the assembler knows are those of the language. -/
lemma form?_isSome_iff (m : Text) : (form? m).isSome = true ↔ IsKnown m := by
  rw [Option.isSome_iff_exists]
  constructor
  · rintro ⟨form, h⟩
    have hstands := stands_of_form? h
    cases form with
    | data => exact Or.inr (Or.inr hstands)
    | fixed i => exact Or.inr (Or.inl ⟨i.encode, hstands⟩)
    | addressed make =>
      obtain ⟨base, hbase, -⟩ := hstands
      exact Or.inl ⟨base, hbase⟩
  · rintro (⟨base, h⟩ | ⟨word, h⟩ | rfl)
    · obtain ⟨make, hform, -⟩ := form?_of_mem_addressedWords h
      exact ⟨_, hform⟩
    · obtain ⟨i, hform, -⟩ := form?_of_mem_fixedWords h
      exact ⟨_, hform⟩
    · exact ⟨_, form?_dataDirective⟩

/-- A field is taken for a mnemonic when its upper case is one. -/
lemma isMnemonic_iff (field : Text) : isMnemonic field = true ↔ IsKnown (Text.upper field) :=
  form?_isSome_iff (Text.upper field)

/-! ### Labels -/

/-- The name in a label field, when the name is well formed. -/
lemma labelName_eq_iff {field name : Text} (hname : IsWellFormedName name) :
    labelName field = name ↔ field = name ∨ field = name ++ [':'] := by
  unfold labelName
  constructor
  · intro h
    split at h
    · next hlast =>
      subst h
      exact Or.inr (List.dropLast_append_getLast? ':' hlast).symm
    · exact Or.inl h
  · rintro (rfl | rfl)
    · rw [if_neg hname.getLast?_ne_colon]
    · rw [if_pos List.getLast?_concat, List.dropLast_concat]

/-- The check on label fields finds the labels they define. -/
lemma checkLabel_eq_ok_iff (field name : Text) :
    checkLabel field = .ok name ↔ DefinesLabel field name := by
  unfold checkLabel DefinesLabel
  simp only [← isName_iff, ← isMnemonic_iff]
  constructor
  · intro h
    split at h
    · cases h
    · next hwell =>
      split at h
      · cases h
      · next hfree =>
        obtain rfl := Except.ok.inj h
        have hname : isName (labelName field) = true := by simpa using hwell
        exact ⟨(labelName_eq_iff ((isName_iff _).mp hname)).mp rfl, hname, hfree⟩
  · rintro ⟨hfield, hname, hfree⟩
    obtain rfl := (labelName_eq_iff ((isName_iff _).mp hname)).mpr hfield
    rw [if_neg (by rw [hname]; decide), if_neg hfree]

/-! ### Lines -/

/-- The check of a statement without label. -/
lemma check_of_label_none (m : Text) (operand : Option Text) (s : Statement) :
    Statement.check ⟨none, m, operand⟩ = .ok s ↔ s = ⟨none, Text.upper m, operand⟩ := by
  unfold Statement.check
  rw [Except.ok.injEq, eq_comm]

/-- The check of a statement with a label. -/
lemma check_of_label_some (field m : Text) (operand : Option Text) (s : Statement) :
    Statement.check ⟨some field, m, operand⟩ = .ok s ↔
      ∃ name, DefinesLabel field name ∧ s = ⟨some name, Text.upper m, operand⟩ := by
  simp only [Statement.check, ← checkLabel_eq_ok_iff]
  cases checkLabel field with
  | error cause => simp
  | ok name =>
    simp only [Except.ok.injEq, exists_eq_left']
    exact eq_comm

/-- Two fields with a mnemonic first are that mnemonic and its operand. -/
lemma arrange_pair_of_isKnown {first : Text} (second : Text) (h : IsKnown (Text.upper first)) :
    arrange [first, second] = .ok (some ⟨none, first, some second⟩) :=
  if_pos ((isMnemonic_iff first).mpr h)

/-- Two fields without a mnemonic first are a label and a mnemonic. -/
lemma arrange_pair_of_not_isKnown {first : Text} (second : Text)
    (h : ¬ IsKnown (Text.upper first)) :
    arrange [first, second] = .ok (some ⟨some first, second, none⟩) :=
  if_neg fun hm => h ((isMnemonic_iff first).mp hm)

/-- Only a line without fields is arranged as no statement. -/
lemma arrange_eq_ok_none_iff (fields : List Text) : arrange fields = .ok none ↔ fields = [] := by
  rcases fields with _ | ⟨a, _ | ⟨b, _ | ⟨c, _ | ⟨d, rest⟩⟩⟩⟩
  · simp [arrange]
  · simp [arrange]
  · by_cases h : IsKnown (Text.upper a)
    · simp [arrange_pair_of_isKnown b h]
    · simp [arrange_pair_of_not_isKnown b h]
  · simp [arrange]
  · simp [arrange]

/-- Fields read as the statement that they are arranged as, once it is checked. -/
lemma reads_iff_arrange (fields : List Text) (s : Statement) :
    Reads fields s ↔ ∃ written, arrange fields = .ok (some written) ∧ written.check = .ok s := by
  constructor
  · intro h
    cases h with
    | mnemonic m => exact ⟨_, rfl, rfl⟩
    | operand m operand known => exact ⟨_, arrange_pair_of_isKnown operand known, rfl⟩
    | label field name m unknown defines =>
      exact ⟨_, arrange_pair_of_not_isKnown m unknown,
        (check_of_label_some field m none _).mpr ⟨name, defines, rfl⟩⟩
    | full field name m operand defines =>
      exact ⟨_, rfl, (check_of_label_some field m (some operand) _).mpr ⟨name, defines, rfl⟩⟩
  · rintro ⟨written, harrange, hcheck⟩
    rcases fields with _ | ⟨a, _ | ⟨b, _ | ⟨c, _ | ⟨d, rest⟩⟩⟩⟩
    · simp [arrange] at harrange
    · obtain rfl := Option.some.inj (Except.ok.inj harrange)
      obtain rfl := (check_of_label_none a none s).mp hcheck
      exact Reads.mnemonic a
    · by_cases hknown : IsKnown (Text.upper a)
      · rw [arrange_pair_of_isKnown b hknown] at harrange
        obtain rfl := Option.some.inj (Except.ok.inj harrange)
        obtain rfl := (check_of_label_none a (some b) s).mp hcheck
        exact Reads.operand a b hknown
      · rw [arrange_pair_of_not_isKnown b hknown] at harrange
        obtain rfl := Option.some.inj (Except.ok.inj harrange)
        obtain ⟨name, hdefines, rfl⟩ := (check_of_label_some a b none s).mp hcheck
        exact Reads.label a name b hknown hdefines
    · obtain rfl := Option.some.inj (Except.ok.inj harrange)
      obtain ⟨name, hdefines, rfl⟩ := (check_of_label_some a b (some c) s).mp hcheck
      exact Reads.full a name b c hdefines
    · simp [arrange] at harrange

/-- A line without fields, and no other, is read as no statement. -/
theorem statement?_eq_ok_none_iff (line : Text) :
    statement? line = .ok none ↔ lineFields line = [] := by
  rw [← arrange_eq_ok_none_iff]
  unfold statement? lineFields
  split
  · next harrange => simp [harrange]
  · next harrange => simp [harrange]
  · next written harrange =>
    cases written.check <;> simp [harrange]

/-- The statement of a line is the one that its fields read as. -/
theorem statement?_eq_ok_some_iff (line : Text) (s : Statement) :
    statement? line = .ok (some s) ↔ Reads (lineFields line) s := by
  rw [reads_iff_arrange]
  unfold statement? lineFields
  split
  · next harrange => simp [harrange]
  · next harrange => simp [harrange]
  · next written harrange =>
    cases hcheck : written.check <;> simp [harrange, hcheck]

/-- Fields read as at most one statement. -/
lemma Reads.unique {fields : List Text} {s s' : Statement} (h : Reads fields s)
    (h' : Reads fields s') : s = s' := by
  obtain ⟨written, harrange, hcheck⟩ := (reads_iff_arrange fields s).mp h
  obtain ⟨written', harrange', hcheck'⟩ := (reads_iff_arrange fields s').mp h'
  rw [harrange] at harrange'
  obtain rfl := Option.some.inj (Except.ok.inj harrange')
  exact Except.ok.inj (hcheck.symm.trans hcheck')

/-- The label of a statement that was read is a name. -/
lemma Reads.isWellFormedName {fields : List Text} {s : Statement} (h : Reads fields s)
    {name : Text} (hname : s.label = some name) : IsWellFormedName name := by
  cases h with
  | mnemonic | operand => cases hname
  | label field name' m unknown defines =>
    obtain rfl := Option.some.inj hname
    exact defines.2.1
  | full field name' m operand defines =>
    obtain rfl := Option.some.inj hname
    exact defines.2.1

end Assembly

end LittleMan
