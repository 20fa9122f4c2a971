import LittleMan.Proofs.Assembly.Acceptance
import LittleMan.Proofs.Instruction

/-!
# Assembling and decoding

The assembler and the machine agree on what a word means: the word of an instruction decodes to
the instruction that the line asks for, with the mailbox that its operand denotes
(`decode_image_of_assemble`). Since an operand is at most 99, it never carries into the hundreds
digit that tells the instructions apart (`Denotes.isAddress`).
-/

namespace LittleMan

namespace Assembly

/-- The name of the instruction that a mnemonic stands for: `STA` is another way to write `STO`,
and `COB` another way to write `HLT`. -/
def instructionName (m : Text) : Text :=
  if m = "STA" then "STO" else if m = "COB" then "HLT" else m

/-- The names of the instructions on a mailbox. -/
def addressedNames : List Text := ["ADD", "SUB", "STO", "LDA", "BR", "BRZ", "BRP"]

/-- The names of the instructions without operand. -/
def fixedNames : List Text := ["HLT", "IN", "OUT"]

/-- The instruction of a fixed mnemonic. -/
lemma exists_instruction_of_mem_fixedWords {m : Text} {word : Int} (h : (m, word) ∈ fixedWords) :
    ∃ i : Instruction, i.encode = word ∧ i.operand? = none ∧ i.mnemonic = instructionName m ∧
      instructionName m ∈ fixedNames := by
  simp only [fixedWords, List.mem_cons, List.not_mem_nil, or_false, Prod.mk.injEq] at h
  rcases h with ⟨rfl, rfl⟩ | ⟨rfl, rfl⟩ | ⟨rfl, rfl⟩ | ⟨rfl, rfl⟩
  · exact ⟨.hlt, rfl, rfl, rfl, by decide⟩
  · exact ⟨.hlt, rfl, rfl, rfl, by decide⟩
  · exact ⟨.inp, rfl, rfl, rfl, by decide⟩
  · exact ⟨.out, rfl, rfl, rfl, by decide⟩

/-- The instruction of an addressed mnemonic, on any mailbox. -/
lemma exists_instruction_of_mem_addressedWords {m : Text} {base : Int}
    (h : (m, base) ∈ addressedWords) (a : Int) :
    ∃ i : Instruction, i.encode = base + a ∧ i.operand? = some a ∧
      i.mnemonic = instructionName m ∧ instructionName m ∈ addressedNames := by
  simp only [addressedWords, List.mem_cons, List.not_mem_nil, or_false, Prod.mk.injEq] at h
  rcases h with ⟨rfl, rfl⟩ | ⟨rfl, rfl⟩ | ⟨rfl, rfl⟩ | ⟨rfl, rfl⟩ | ⟨rfl, rfl⟩ | ⟨rfl, rfl⟩ |
    ⟨rfl, rfl⟩ | ⟨rfl, rfl⟩
  · exact ⟨.add a, rfl, rfl, rfl, by decide⟩
  · exact ⟨.sub a, rfl, rfl, rfl, by decide⟩
  · exact ⟨.sto a, rfl, rfl, rfl, by decide⟩
  · exact ⟨.sto a, rfl, rfl, rfl, by decide⟩
  · exact ⟨.lda a, rfl, rfl, rfl, by decide⟩
  · exact ⟨.br a, rfl, rfl, rfl, by decide⟩
  · exact ⟨.brz a, rfl, rfl, rfl, by decide⟩
  · exact ⟨.brp a, rfl, rfl, rfl, by decide⟩

/-- What an operand of an instruction denotes is an address: a literal is at most 99, and so is
the mailbox of a label in a program that fits into the mailboxes. -/
lemma Denotes.isAddress {program : List Statement} {operand : Text} {address : Nat}
    (h : Denotes program 99 operand address) (hlength : program.length ≤ 100) :
    IsAddress address := by
  have hle : address ≤ 99 := by
    cases h with
    | literal digits short le => exact le
    | label k s at_k defined =>
      have hlt := (List.getElem?_eq_some_iff.mp at_k).1
      omega
  unfold IsAddress
  omega

/-- The instruction is the one that a statement of the program asks for: its name is the mnemonic,
and its operand the mailbox that the operand of the statement denotes, if there is one. -/
structure IsAskedFor (program : List Statement) (s : Statement) (i : Instruction) : Prop where
  mnemonic : i.mnemonic = instructionName s.mnemonic
  operand : (i.mnemonic ∈ fixedNames ∧ s.operand = none ∧ i.operand? = none) ∨
    ∃ (operand : Text) (address : Nat), i.mnemonic ∈ addressedNames ∧ s.operand = some operand ∧
      Denotes program 99 operand address ∧ i.operand? = some (address : Int)

/-- Every word that a program puts into a mailbox for an instruction decodes to the instruction that
its line asks for. -/
theorem decode_image_of_assemble {source : Source} {image : List Int}
    (h : assemble source = .ok image) :
    ∃ program, ReadsAs source.toLines program ∧
      ∀ (k : Nat) (s : Statement), program[k]? = some s → s.mnemonic ≠ dataDirective →
        ∃ word i, image[k]? = some word ∧ Instruction.decode? word = some i ∧
          IsAskedFor program s i := by
  obtain ⟨program, hprogram, himage⟩ := exists_isProgram_of_assemble h
  refine ⟨program, hprogram.readsAs, fun k s hs hdata => ?_⟩
  obtain ⟨word, hword, hget⟩ := himage.encodes k s hs
  cases hword with
  | addressed label m operand base address known denotes =>
    obtain ⟨i, hencode, hoperand, hname, hmem⟩ :=
      exists_instruction_of_mem_addressedWords known (address : Int)
    have haddress := denotes.isAddress hprogram.length_le
    have hdecode : Instruction.decode? (base + address) = some i := by
      rw [← hencode]
      refine Instruction.decode?_encode fun a ha => ?_
      rw [hoperand] at ha
      exact Option.some.inj ha ▸ haddress
    exact ⟨_, i, hget, hdecode, hname,
      Or.inr ⟨operand, address, hname.symm ▸ hmem, rfl, denotes, hoperand⟩⟩
  | fixed label m word known =>
    obtain ⟨i, rfl, hoperand, hname, hmem⟩ := exists_instruction_of_mem_fixedWords known
    have hdecode : Instruction.decode? i.encode = some i := by
      refine Instruction.decode?_encode fun a ha => ?_
      rw [hoperand] at ha
      cases ha
    exact ⟨_, i, hget, hdecode, hname, Or.inl ⟨hname.symm ▸ hmem, rfl, hoperand⟩⟩
  | blank label => exact absurd rfl hdata
  | data label operand value denotes => exact absurd rfl hdata

/-- The words of a program with a forward reference and the two other names of an instruction. -/
theorem decode_image_of_assemble_copy :
    ∃ program, ReadsAs (Source.text "lda x\nsta 5 # copy\ncob\nx dat 7").toLines program ∧
      ∀ (k : Nat) (s : Statement), program[k]? = some s → s.mnemonic ≠ dataDirective →
        ∃ word i, (padded [503, 305, 0, 7])[k]? = some word ∧
          Instruction.decode? word = some i ∧ IsAskedFor program s i :=
  decode_image_of_assemble (by decide)

end Assembly

end LittleMan
