import LittleMan.Proofs.Assembly.Decoding
import LittleMan.Proofs.Machine.Run
import LittleMan.Proofs.MachineCode

/-!
# Loading an assembled program

An image is a hundred words (`IsImage.isWord`), so a machine takes it as it is, and it does not
matter whether it takes the image or its written form (`isProgramText_of_assemble`).
-/

namespace LittleMan

namespace Assembly

/-! ### The words of an image -/

section

variable {program : List Statement}

/-- What an operand of the directive denotes is a word. -/
lemma Denotes.le_of_data {operand : Text} {value : Nat} (h : Denotes program 999 operand value)
    (hlength : program.length ≤ 100) : value ≤ 999 := by
  cases h with
  | literal digits short le => exact le
  | label k s at_k defined =>
    have hlt := (List.getElem?_eq_some_iff.mp at_k).1
    omega

/-- The words for mailbox zero leave room for an address. -/
lemma le_of_mem_addressedWords {m : Text} {base : Int} (h : (m, base) ∈ addressedWords) :
    0 ≤ base ∧ base ≤ 900 := by
  simp only [addressedWords, List.mem_cons, List.not_mem_nil, or_false, Prod.mk.injEq] at h
  omega

/-- The words of the instructions without operand are words. -/
lemma isWord_of_mem_fixedWords {m : Text} {word : Int} (h : (m, word) ∈ fixedWords) :
    IsWord word := by
  simp only [fixedWords, List.mem_cons, List.not_mem_nil, or_false, Prod.mk.injEq] at h
  unfold IsWord
  omega

/-- A statement of a program that fits into the mailboxes encodes to a word. -/
lemma Encodes.isWord {s : Statement} {word : Int} (h : Encodes program s word)
    (hlength : program.length ≤ 100) : IsWord word := by
  cases h with
  | addressed label m operand base address known denotes =>
    obtain ⟨hlow, hhigh⟩ := le_of_mem_addressedWords known
    obtain ⟨-, haddress⟩ := denotes.isAddress hlength
    unfold IsWord
    omega
  | fixed label m word known => exact isWord_of_mem_fixedWords known
  | blank label => exact Memory.isWord_zero
  | data label operand value denotes =>
    have hle := denotes.le_of_data hlength
    unfold IsWord
    omega

/-- An image holds words. -/
theorem IsImage.isWord {image : List Int} (h : IsImage program image)
    (hlength : program.length ≤ 100) : ∀ w ∈ image, IsWord w := by
  intro w hw
  obtain ⟨k, hk⟩ := List.mem_iff_getElem?.mp hw
  by_cases hlt : k < program.length
  · obtain ⟨word, hencodes, hget⟩ := h.encodes k program[k] (List.getElem?_eq_getElem hlt)
    obtain rfl := Option.some.inj (hk.symm.trans hget)
    exact hencodes.isWord hlength
  · have hk100 : k < 100 := h.length_eq ▸ (List.getElem?_eq_some_iff.mp hk).1
    obtain rfl := Option.some.inj (hk.symm.trans (h.zero k (by omega) hk100))
    exact Memory.isWord_zero

end

/-! ### Loading -/

/-- A hundred words and a text are the same program: a machine takes either, and then has the words
in its mailboxes. -/
structure IsProgramText (words : List Int) (text : Text) : Prop where
  length_eq : words.length = 100
  isWord : ∀ w ∈ words, IsWord w
  load : ∀ m : Machine, ∃ loaded, m.load (words.map .integer) = .ok loaded ∧
    loaded.memory = { m.memory with cells := words }
  loadText : ∀ m : Machine, ∃ loaded, m.loadText text = .ok loaded ∧
    loaded.memory = { m.memory with cells := words }
  /-- The text is a hundred lines of three digits each. -/
  rows : ∃ rows : List Text, text = Text.closeRows rows ∧ Text.lines text = rows ∧
    rows.length = 100 ∧ ∀ row ∈ rows, row.length = 3 ∧ ∀ c ∈ row, c.isDigit = true

/-- A hundred words and their written form are the same program. -/
theorem isProgramText_render {words : List Int} (hlength : words.length = 100)
    (hwords : ∀ w ∈ words, IsWord w) : IsProgramText words (MachineCode.render words) where
  length_eq := hlength
  isWord := hwords
  load m := by
    refine ⟨_, m.load_integers (Nat.le_of_eq hlength) hwords, ?_⟩
    rw [Machine.note_memory, padded_eq_self hlength]
  loadText m := by
    have hload : Machine.loadWords m.memory (MachineCode.render words) =
        .ok { m.memory with cells := padded words } := by
      unfold Machine.loadWords
      rw [MachineCode.parse_render hwords]
      exact m.memory.load_integers (Nat.le_of_eq hlength) hwords
    refine ⟨_, (Machine.loadText_eq_ok_iff _ _ _).mpr ⟨_, hload, rfl⟩, ?_⟩
    rw [Machine.note_memory, padded_eq_self hlength]
  rows := by
    refine ⟨words.map (Text.zeroPadded 3), rfl, MachineCode.lines_render hwords, ?_, ?_⟩
    · rw [List.length_map, hlength]
    · intro row hrow
      obtain ⟨w, hw, rfl⟩ := List.mem_map.mp hrow
      exact MachineCode.row_of_isWord (hwords w hw)

/-- The image of a source that assembles and its machine code are the same program. -/
theorem isProgramText_of_assemble {source : Source} {image : List Int}
    (h : assemble source = .ok image) :
    IsProgramText image (ofSource source).machineCode := by
  obtain ⟨program, hprogram, himage⟩ := exists_isProgram_of_assemble h
  obtain ⟨-, hsame⟩ := (result_eq_ok_iff _ image).mp h
  unfold machineCode
  rw [hsame]
  exact isProgramText_render himage.length_eq (himage.isWord hprogram.length_le)

end Assembly

end LittleMan
