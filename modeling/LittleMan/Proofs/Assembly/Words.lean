import LittleMan.Proofs.Assembly.Reading
import LittleMan.Proofs.Text.Written

/-!
# Words of statements

The second pass looks the labels up in a table. If the table belongs to the program (`Resolves`),
the pass gives an operand exactly the value that it denotes (`operandValue_eq_ok_iff`) and a
statement exactly the word that it encodes to (`word_eq_ok_iff`). Since a table gives one mailbox
to a label, a statement encodes to at most one word (`Resolves.encodes_unique`).
-/

namespace LittleMan

namespace Assembly

/-- The table gives every label of the program its mailbox, and the labels are names. -/
structure Resolves (symbols : Symbols) (program : List Statement) : Prop where
  lookup_iff : ∀ (name : Text) (k : Nat), symbols.lookup name = some k ↔
    ∃ s : Statement, program[k]? = some s ∧ s.label = some name
  isWellFormedName : ∀ s ∈ program, ∀ name, s.label = some name → IsWellFormedName name

/-! ### Operands -/

/-- No literal is a negative one. -/
lemma IsLiteral.isNegativeLiteral_eq_false {t : Text} (h : IsLiteral t) :
    isNegativeLiteral t = false := by
  unfold isNegativeLiteral
  split
  · next ds =>
    have hminus : IsDecimalDigit '-' := h.2 '-' List.mem_cons_self
    exact absurd hminus (by unfold IsDecimalDigit; decide)
  · rfl

/-- The value of a literal is that of its digits. -/
lemma value?_eq_some_iff_isLiteral {t : Text} {value : Nat} :
    Text.value? t = some value ↔ IsLiteral t ∧ Text.digitsValue t = value := by
  unfold Text.value?
  rw [← isNumeral_iff]
  split
  · next hdigits => simp [hdigits]
  · next hdigits => simp [hdigits]

/-- What reads as a number is a literal that is not too long, and the number is its value. -/
lemma numeral?_eq_some_iff_isLiteral {t : Text} {value : Nat} :
    Text.numeral? t = some (.ok value) ↔
      (IsLiteral t ∧ Text.digitsValue t = value) ∧ t.length ≤ 4300 := by
  rw [Text.numeral?_eq_some_iff, ← Text.value?_eq_some_iff, value?_eq_some_iff_isLiteral]
  rfl

/-- A name does not read as a number. -/
lemma IsWellFormedName.numeral?_eq_none {t : Text} (h : IsWellFormedName t) :
    Text.numeral? t = none := by
  unfold Text.numeral?
  rw [if_neg fun hn => h.not_isLiteral ((isNumeral_iff t).mp hn)]

section

variable {symbols : Symbols} {program : List Statement}

/-- An operand has the value that it denotes. -/
theorem operandValue_eq_ok_iff (h : Resolves symbols program) (limit : Nat) (operand : Text)
    (value : Nat) :
    operandValue symbols limit operand = .ok value ↔ Denotes program limit operand value := by
  constructor
  · intro hvalue
    unfold operandValue at hvalue
    split at hvalue
    · split at hvalue <;> cases hvalue
    · split at hvalue
      · cases hvalue
      · next v hnumeral =>
        obtain ⟨⟨hdigits, rfl⟩, hshort⟩ := numeral?_eq_some_iff_isLiteral.mp hnumeral
        split at hvalue
        · next hle =>
          obtain rfl := Except.ok.inj hvalue
          exact Denotes.literal hdigits hshort hle
        · cases hvalue
      · split at hvalue
        · next address hlookup =>
          obtain rfl := Except.ok.inj hvalue
          obtain ⟨s, hs, hlabel⟩ := (h.lookup_iff operand address).mp hlookup
          exact Denotes.label address s hs hlabel
        · split at hvalue
          · cases hvalue
          · cases hvalue
  · intro hdenotes
    unfold operandValue
    cases hdenotes with
    | literal digits short le =>
      rw [digits.isNegativeLiteral_eq_false,
        numeral?_eq_some_iff_isLiteral.mpr ⟨⟨digits, rfl⟩, short⟩]
      exact if_pos le
    | label k s at_k defined =>
      have hname : IsWellFormedName operand :=
        h.isWellFormedName s (List.mem_of_getElem? at_k) operand defined
      have hlookup : symbols.lookup operand = some value :=
        (h.lookup_iff operand value).mpr ⟨s, at_k, defined⟩
      rw [hname.isNegativeLiteral_eq_false, hname.numeral?_eq_none, hlookup]
      rfl

/-- A statement has the word that it encodes to. -/
theorem word_eq_ok_iff (h : Resolves symbols program) (s : Statement) (word : Int) :
    s.word symbols = .ok word ↔ Encodes program s word := by
  obtain ⟨label, m, operand⟩ := s
  constructor
  · intro hword
    unfold Statement.word at hword
    split at hword
    · cases hword
    · next hform hoperand =>
      obtain rfl : operand = none := hoperand
      obtain rfl : m = dataDirective := stands_of_form? hform
      obtain rfl := Except.ok.inj hword
      exact Encodes.blank label
    · next o hform hoperand =>
      obtain rfl : operand = some o := hoperand
      obtain rfl : m = dataDirective := stands_of_form? hform
      obtain ⟨value, hvalue, rfl⟩ := map_eq_ok_iff.mp hword
      exact Encodes.data label o value ((operandValue_eq_ok_iff h dataLimit o value).mp hvalue)
    · next i hform hoperand =>
      obtain rfl : operand = none := hoperand
      obtain rfl := Except.ok.inj hword
      exact Encodes.fixed label m i.encode (stands_of_form? hform)
    · cases hword
    · cases hword
    · next make o hform hoperand =>
      obtain rfl : operand = some o := hoperand
      obtain ⟨base, hbase, hencode⟩ := stands_of_form? hform
      obtain ⟨address, haddress, rfl⟩ := map_eq_ok_iff.mp hword
      rw [hencode]
      exact Encodes.addressed label m o base address hbase
        ((operandValue_eq_ok_iff h addressLimit o address).mp haddress)
  · intro hencodes
    cases hencodes with
    | addressed label m o base address known denotes =>
      obtain ⟨make, hform, hencode⟩ := form?_of_mem_addressedWords known
      have haddress := (operandValue_eq_ok_iff h addressLimit o address).mpr denotes
      simp only [Statement.word, hform]
      exact map_eq_ok_iff.mpr ⟨address, haddress, hencode address⟩
    | fixed label m word known =>
      obtain ⟨i, hform, rfl⟩ := form?_of_mem_fixedWords known
      simp only [Statement.word, hform]
    | blank label => rfl
    | data label o value denotes =>
      have hvalue := (operandValue_eq_ok_iff h dataLimit o value).mpr denotes
      simp only [Statement.word, form?_dataDirective]
      exact map_eq_ok_iff.mpr ⟨value, hvalue, rfl⟩

/-- A statement encodes to at most one word. -/
lemma Resolves.encodes_unique (h : Resolves symbols program) {s : Statement} {word word' : Int}
    (hword : Encodes program s word) (hword' : Encodes program s word') : word = word' := by
  rw [← word_eq_ok_iff h] at hword hword'
  exact Except.ok.inj (hword.symm.trans hword')

end

end Assembly

end LittleMan
