import LittleMan.Instruction
import LittleMan.Word
import Mathlib.Tactic.Lemma

/-!
# Decoding and encoding

A word is read by its hundreds digit and its last two digits. Decoding an encoded instruction gives
the instruction back whenever its operand is an address (`decode?_encode`), and the operand of a
decoded instruction is an address (`isAddress_of_decode?`).
-/

namespace LittleMan

/-- The last two digits of a number are an address. -/
lemma isAddress_emod (n : Int) : IsAddress (n % 100) := by
  unfold IsAddress
  omega

/-- The last three digits are a word. -/
lemma isWord_emod (n : Int) : IsWord (n % 1000) := by
  unfold IsWord
  omega

namespace Instruction

/-- The hundreds and the last two digits of a base word with an address added. -/
lemma div_mod_base_add (base digit : Int) {a : Int} (hbase : base = 100 * digit)
    (ha : IsAddress a) : (base + a) / 100 = digit ∧ (base + a) % 100 = a := by
  obtain ⟨hle, hge⟩ := ha
  omega

/-- Decoding undoes encoding. -/
theorem decode?_encode {i : Instruction} (h : ∀ a, i.operand? = some a → IsAddress a) :
    decode? i.encode = some i := by
  cases i with
  | hlt | inp | out => rfl
  | add a =>
    obtain ⟨hdiv, hmod⟩ := div_mod_base_add 100 1 rfl (h a rfl)
    simp only [decode?, encode, hdiv, hmod]
  | sub a =>
    obtain ⟨hdiv, hmod⟩ := div_mod_base_add 200 2 rfl (h a rfl)
    simp only [decode?, encode, hdiv, hmod]
  | sto a =>
    obtain ⟨hdiv, hmod⟩ := div_mod_base_add 300 3 rfl (h a rfl)
    simp only [decode?, encode, hdiv, hmod]
  | lda a =>
    obtain ⟨hdiv, hmod⟩ := div_mod_base_add 500 5 rfl (h a rfl)
    simp only [decode?, encode, hdiv, hmod]
  | br a =>
    obtain ⟨hdiv, hmod⟩ := div_mod_base_add 600 6 rfl (h a rfl)
    simp only [decode?, encode, hdiv, hmod]
  | brz a =>
    obtain ⟨hdiv, hmod⟩ := div_mod_base_add 700 7 rfl (h a rfl)
    simp only [decode?, encode, hdiv, hmod]
  | brp a =>
    obtain ⟨hdiv, hmod⟩ := div_mod_base_add 800 8 rfl (h a rfl)
    simp only [decode?, encode, hdiv, hmod]

/-- Encoding undoes decoding, but for the halts: from 000 to 099 every word halts. -/
lemma encode_of_decode? {word : Int} {i : Instruction} (h : decode? word = some i) :
    (i = hlt ∧ 0 ≤ word ∧ word ≤ 99) ∨ (100 ≤ word ∧ i.encode = word) := by
  simp only [decode?] at h
  split at h
  case h_1 hdiv =>
    obtain rfl := Option.some.inj h
    exact Or.inl ⟨rfl, by omega, by omega⟩
  case h_9 hdiv =>
    split at h
    case h_3 => cases h
    all_goals
      next hmod =>
      obtain rfl := Option.some.inj h
      exact Or.inr ⟨by omega, show _ = word by simp only [encode]; omega⟩
  case h_10 => cases h
  all_goals
    next hdiv =>
    obtain rfl := Option.some.inj h
    exact Or.inr ⟨by omega, show _ = word by simp only [encode]; omega⟩

/-- The operand of a decoded instruction is made of the last two digits of the word. -/
lemma operand?_of_decode? {word : Int} {i : Instruction} (h : decode? word = some i) :
    i.operand? = none ∨ i.operand? = some (word % 100) := by
  simp only [decode?] at h
  split at h
  case h_9 =>
    split at h
    case h_3 => cases h
    all_goals
      obtain rfl := Option.some.inj h
      exact Or.inl rfl
  case h_10 => cases h
  all_goals
    obtain rfl := Option.some.inj h
    first
      | exact Or.inl rfl
      | exact Or.inr rfl

/-- The operand of a decoded instruction is an address. -/
lemma isAddress_of_decode? {word a : Int} {i : Instruction} (h : decode? word = some i)
    (ha : i.operand? = some a) : IsAddress a := by
  rcases operand?_of_decode? h with hnone | hsome
  · rw [hnone] at ha
    cases ha
  · rw [hsome] at ha
    obtain rfl := Option.some.inj ha
    exact isAddress_emod word

end Instruction

end LittleMan
