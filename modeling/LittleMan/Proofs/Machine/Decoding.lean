import LittleMan.Proofs.Assembly.Disassembly
import LittleMan.Proofs.Machine.Step
import LittleMan.Proofs.Text.Limit
import LittleMan.Proofs.Text.Signed

/-!
# Which numbers are instructions

Decoding is defined for every integer, by its quotient and its remainder of a hundred, and an
integer below zero or above 999 has a quotient too. What it comes to is told here by the ranges in
which a number lies: `Carries` gives the name and the mailbox that a number carries, one constructor
for each kind of instruction, and decoding tells exactly that (`decoded?_eq_some_iff`). So the
numbers that carry something are those of `IsInstructionWord`, and only the halts carry the same
(`Carries.eq_or_halts`).

A machine that fetches any other number fails for this reason, and for no other number does it fail
so (`Machine.takesOrRefuses`). A disassembled number says what decoding tells, or else it is a
directive that says the number (`readDisassembly?_disassemble`).
-/

namespace LittleMan

namespace Instruction

/-! ### What a number carries -/

/-- The name and the mailbox that decoding tells of a number. -/
def decoded? (word : Int) : Option (Text × Option Int) :=
  (decode? word).map fun i => (i.mnemonic, i.operand?)

/-- The instructions on a mailbox, each with its hundreds digit. -/
def hundreds : List (Text × Int) :=
  [("ADD", 1), ("SUB", 2), ("STO", 3), ("LDA", 5), ("BR", 6), ("BRZ", 7), ("BRP", 8)]

/-- A number carries the instruction of a name, on a mailbox if there is one. -/
inductive Carries : Int → Text × Option Int → Prop where
  | halt {word : Int} (low : 0 ≤ word) (high : word ≤ 99) : Carries word ("HLT", none)
  | input : Carries 901 ("IN", none)
  | output : Carries 902 ("OUT", none)
  | addressed (name : Text) (digit a : Int) (known : (name, digit) ∈ hundreds)
      (isAddress : IsAddress a) : Carries (100 * digit + a) (name, some a)

/-- The numbers that carry an instruction. -/
def IsInstructionWord (word : Int) : Prop :=
  (0 ≤ word ∧ word ≤ 399) ∨ (500 ≤ word ∧ word ≤ 899) ∨ word = 901 ∨ word = 902

/-- A hundreds digit belongs to an instruction that can be made for any mailbox. -/
lemma exists_instruction_of_mem_hundreds {name : Text} {digit : Int}
    (h : (name, digit) ∈ hundreds) (a : Int) :
    ∃ i : Instruction, i.encode = 100 * digit + a ∧ i.mnemonic = name ∧ i.operand? = some a := by
  simp only [hundreds, List.mem_cons, List.not_mem_nil, or_false, Prod.mk.injEq] at h
  rcases h with ⟨rfl, rfl⟩ | ⟨rfl, rfl⟩ | ⟨rfl, rfl⟩ | ⟨rfl, rfl⟩ | ⟨rfl, rfl⟩ | ⟨rfl, rfl⟩ |
    ⟨rfl, rfl⟩
  · exact ⟨.add a, rfl, rfl, rfl⟩
  · exact ⟨.sub a, rfl, rfl, rfl⟩
  · exact ⟨.sto a, rfl, rfl, rfl⟩
  · exact ⟨.lda a, rfl, rfl, rfl⟩
  · exact ⟨.br a, rfl, rfl, rfl⟩
  · exact ⟨.brz a, rfl, rfl, rfl⟩
  · exact ⟨.brp a, rfl, rfl, rfl⟩

section

variable {word word' : Int} {d : Text × Option Int} {i : Instruction}

/-- The instruction on a mailbox carries its name and the mailbox. -/
lemma carries_encode (h : ∀ a, i.operand? = some a → IsAddress a) :
    Carries i.encode (i.mnemonic, i.operand?) := by
  cases i with
  | hlt => exact .halt (by decide) (by decide)
  | inp => exact .input
  | out => exact .output
  | add a => exact .addressed "ADD" 1 a (by decide) (h a rfl)
  | sub a => exact .addressed "SUB" 2 a (by decide) (h a rfl)
  | sto a => exact .addressed "STO" 3 a (by decide) (h a rfl)
  | lda a => exact .addressed "LDA" 5 a (by decide) (h a rfl)
  | br a => exact .addressed "BR" 6 a (by decide) (h a rfl)
  | brz a => exact .addressed "BRZ" 7 a (by decide) (h a rfl)
  | brp a => exact .addressed "BRP" 8 a (by decide) (h a rfl)

/-- Decoding tells what a number carries. -/
theorem decoded?_eq_some_iff : decoded? word = some d ↔ Carries word d := by
  unfold decoded?
  rw [Option.map_eq_some_iff]
  constructor
  · rintro ⟨i, hdecode, rfl⟩
    rcases encode_of_decode? hdecode with ⟨rfl, hlow, hhigh⟩ | ⟨-, rfl⟩
    · exact .halt hlow hhigh
    · exact carries_encode fun a => isAddress_of_decode? hdecode
  · intro h
    cases h with
    | halt low high => exact ⟨.hlt, Assembly.decode?_of_le ⟨low, high⟩, rfl⟩
    | input => exact ⟨.inp, rfl, rfl⟩
    | output => exact ⟨.out, rfl, rfl⟩
    | addressed name digit a known isAddress =>
      obtain ⟨i, hencode, rfl, hoperand⟩ := exists_instruction_of_mem_hundreds known a
      refine ⟨i, ?_, by rw [hoperand]⟩
      rw [← hencode]
      exact decode?_encode fun a' ha' => Option.some.inj (hoperand.symm.trans ha') ▸ isAddress

/-- The numbers that carry something lie in these ranges. -/
lemma exists_carries_iff : (∃ d, Carries word d) ↔ IsInstructionWord word := by
  unfold IsInstructionWord
  constructor
  · rintro ⟨d, h⟩
    cases h with
    | halt low high => omega
    | input => omega
    | output => omega
    | addressed name digit a known isAddress =>
      have hdigit : digit = 1 ∨ digit = 2 ∨ digit = 3 ∨ digit = 5 ∨ digit = 6 ∨ digit = 7 ∨
          digit = 8 := by
        have hmem : digit ∈ hundreds.map Prod.snd := List.mem_map_of_mem known
        simpa [hundreds] using hmem
      unfold IsAddress at isAddress
      omega
  · intro h
    -- in the other ranges a number is made of its quotient and its remainder
    have hcarries (name : Text) (digit : Int) (known : (name, digit) ∈ hundreds)
        (hdigit : word / 100 = digit) : ∃ d, Carries word d := by
      have hcarries := Carries.addressed name digit (word % 100) known (isAddress_emod word)
      have hword : 100 * digit + word % 100 = word := by omega
      rw [hword] at hcarries
      exact ⟨_, hcarries⟩
    rcases h with h | h | rfl | rfl
    · have hdigit : word / 100 = 0 ∨ word / 100 = 1 ∨ word / 100 = 2 ∨ word / 100 = 3 := by omega
      rcases hdigit with hdigit | hdigit | hdigit | hdigit
      · exact ⟨_, .halt h.1 (by omega)⟩
      · exact hcarries "ADD" 1 (by decide) hdigit
      · exact hcarries "SUB" 2 (by decide) hdigit
      · exact hcarries "STO" 3 (by decide) hdigit
    · have hdigit : word / 100 = 5 ∨ word / 100 = 6 ∨ word / 100 = 7 ∨ word / 100 = 8 := by omega
      rcases hdigit with hdigit | hdigit | hdigit | hdigit
      · exact hcarries "LDA" 5 (by decide) hdigit
      · exact hcarries "BR" 6 (by decide) hdigit
      · exact hcarries "BRZ" 7 (by decide) hdigit
      · exact hcarries "BRP" 8 (by decide) hdigit
    · exact ⟨_, .input⟩
    · exact ⟨_, .output⟩

/-- A number carries an instruction exactly if decoding finds one. -/
lemma decode?_eq_none_iff : decode? word = none ↔ ¬ IsInstructionWord word := by
  rw [← exists_carries_iff]
  simp only [← decoded?_eq_some_iff, decoded?, ← Option.isSome_iff_exists, Option.isSome_map,
    Option.not_isSome_iff_eq_none]

/-- A name has one hundreds digit. -/
lemma hundreds_unique {name : Text} {digit digit' : Int} (h : (name, digit) ∈ hundreds)
    (h' : (name, digit') ∈ hundreds) : digit = digit' := by
  have hkeys : (hundreds.map Prod.fst).Nodup := by decide
  have hlookup := (lookup_eq_some_iff_mem hkeys).mpr h
  rw [(lookup_eq_some_iff_mem hkeys).mpr h'] at hlookup
  exact (Option.some.inj hlookup).symm

/-- Numbers that carry the same are equal, or they are both halts. -/
lemma Carries.eq_or_halts (h : Carries word d) (h' : Carries word' d) :
    word = word' ∨ ((0 ≤ word ∧ word ≤ 99) ∧ 0 ≤ word' ∧ word' ≤ 99) := by
  cases h with
  | halt low high =>
    cases h' with
    | halt low' high' => exact .inr ⟨⟨low, high⟩, low', high'⟩
  | input =>
    cases h' with
    | input => exact .inl rfl
  | output =>
    cases h' with
    | output => exact .inl rfl
  | addressed name digit a known =>
    cases h' with
    | addressed _ digit' _ known' => exact .inl (by rw [hundreds_unique known known'])

end

end Instruction

/-! ### What a disassembled number says -/

/-- What a line of a disassembly says: a name, and the number behind it if there is one. -/
def readDisassembly? (line : Text) : Option (Text × Option Int) :=
  match Text.fields line with
  | [name] => some (name, none)
  | [name, number] => (Text.signed? Text.count? number).map fun n => (name, some n)
  | _ => none

section

open Assembly Instruction

variable {word word' : Int}

/-- The fields of a disassembled number are those of its statement, whatever the number is. -/
lemma fields_disassemble (word : Int) : Text.fields (disassemble word) =
    (statementOfWord word).mnemonic :: (statementOfWord word).operand.toList := by
  rw [disassemble_eq]
  unfold statementOfWord
  split
  · next i hdecode =>
    refine Statement.fields_inColumns (mnemonic_mem_listedNames i) fun operand hoperand => ?_
    obtain ⟨a, -, rfl⟩ := Option.map_eq_some_iff.mp hoperand
    exact Text.isField_zeroPadded 2 a
  · next hdecode =>
    refine Statement.fields_inColumns List.mem_cons_self fun operand hoperand => ?_
    obtain rfl := Option.some.inj hoperand
    exact Text.isField_zeroPadded 3 word

/-- A disassembled number says what decoding tells, and if it tells nothing, the number. -/
theorem readDisassembly?_disassemble (word : Int) :
    readDisassembly? (disassemble word) =
      some ((decoded? word).getD (dataDirective, some word)) := by
  unfold readDisassembly?
  rw [fields_disassemble]
  unfold statementOfWord decoded?
  cases decode? word with
  | none =>
    change (Text.signed? Text.count? (Text.zeroPadded 3 word)).map _ = _
    rw [Text.signed?_zeroPadded]
    rfl
  | some i =>
    rw [Option.map_some, Option.getD_some]
    dsimp only
    cases i.operand? with
    | none => rfl
    | some a =>
      change (Text.signed? Text.count? (Text.zeroPadded 2 a)).map _ = _
      rw [Text.signed?_zeroPadded]
      rfl

/-- No instruction has the name of the directive. -/
lemma mnemonic_ne_dataDirective (i : Instruction) : i.mnemonic ≠ dataDirective := by
  cases i <;> simp only [mnemonic] <;> decide

/-- A number is disassembled as a directive exactly if it carries no instruction. -/
lemma directive_prefix_iff :
    "DAT " <+: disassemble word ↔ ¬ IsInstructionWord word := by
  rw [← decode?_eq_none_iff]
  constructor
  · rintro ⟨rest, hrest⟩
    by_contra hsome
    obtain ⟨i, hdecode⟩ := Option.ne_none_iff_exists'.mp hsome
    have hfields := fields_disassemble word
    rw [← hrest] at hfields
    have hname : Text.fields dataDirective = [dataDirective] := rfl
    change Text.fields (dataDirective ++ ' ' :: rest) = _ at hfields
    rw [Text.fields_append_blank_cons (by decide), hname] at hfields
    unfold statementOfWord at hfields
    rw [hdecode] at hfields
    exact mnemonic_ne_dataDirective i (List.cons.inj hfields).1.symm
  · intro hnone
    unfold disassemble
    rw [hnone]
    exact List.prefix_append _ _

/-- A number that carries an instruction has few digits. -/
lemma not_isInstructionWord_of_isWritable (h : Text.isWritable word = false) :
    ¬ IsInstructionWord word := by
  intro hword
  have hisWord : IsWord word := by
    unfold IsInstructionWord at hword
    unfold IsWord
    omega
  rw [Text.isWritable_of_isWord hisWord] at h
  cases h

/-- A number that can be written can be written as assembly text. -/
lemma writeDisassembled_of_isWritable (h : Text.isWritable word = true) :
    writeDisassembled word = .ok (disassemble word) := by
  unfold writeDisassembled disassemble
  split
  · rfl
  · exact Text.withIntegers_of_isWritable (by simpa using h)

/-- Other numbers cannot. -/
lemma writeDisassembled_of_not_isWritable (h : Text.isWritable word = false) :
    writeDisassembled word = .error .writing := by
  have hdecode := decode?_eq_none_iff.mpr (not_isInstructionWord_of_isWritable h)
  unfold writeDisassembled
  rw [hdecode]
  exact Text.withIntegers_eq_error_iff.mpr ⟨⟨word, List.mem_singleton_self word, h⟩, rfl⟩

/-- Numbers that are disassembled to the same text are equal, or they are both halts. -/
lemma eq_or_halts_of_disassemble (h : disassemble word = disassemble word') :
    word = word' ∨ ((0 ≤ word ∧ word ≤ 99) ∧ 0 ≤ word' ∧ word' ≤ 99) := by
  have hsays := congrArg readDisassembly? h
  rw [readDisassembly?_disassemble, readDisassembly?_disassemble, Option.some_inj] at hsays
  have hname {word : Int} {d : Text × Option Int} (hd : decoded? word = some d) :
      d.1 ≠ dataDirective := by
    obtain ⟨i, -, rfl⟩ := Option.map_eq_some_iff.mp hd
    exact mnemonic_ne_dataDirective i
  cases hd : decoded? word with
  | none =>
    cases hd' : decoded? word' with
    | none =>
      rw [hd, hd'] at hsays
      exact .inl (Option.some.inj (Prod.mk.inj hsays).2)
    | some d' =>
      rw [hd, hd'] at hsays
      exact absurd (congrArg Prod.fst hsays).symm (hname hd')
  | some d =>
    cases hd' : decoded? word' with
    | none =>
      rw [hd, hd'] at hsays
      exact absurd (congrArg Prod.fst hsays) (hname hd)
    | some d' =>
      rw [hd, hd'] at hsays
      obtain rfl : d = d' := hsays
      exact (decoded?_eq_some_iff.mp hd).eq_or_halts (decoded?_eq_some_iff.mp hd')

end

namespace Machine

open Instruction

/-! ### Machines that fetch a number -/

/-- An instruction that fails does not fail for want of an instruction. -/
lemma kind_of_perform {m after : Machine} {i : Instruction} {cause : Fault.Cause}
    (h : m.perform i = (after, some cause)) : cause.kind ≠ .invalidOpcode := by
  have hcases := m.perform_cases i
  rw [h] at hcases
  cases hcases with
  | unread i a cause reads read =>
    obtain ⟨-, rfl⟩ := (m.memory.read_eq_error_iff a cause).mp read
    exact nofun
  | unwritten a calls cause write =>
    exact fun hkind => absurd (hkind ▸ Memory.kind_of_write_error write) (by decide)
  | empty cause pop =>
    obtain ⟨-, rfl⟩ := (m.input.pop_eq_error_iff cause).mp pop
    exact nofun

/-- What a machine makes of a number that it fetches: if the number carries no instruction, the
machine refuses it as such and tells it, and for no other number does it fail so. A number with too
many digits cannot be told, and the overflow is reported in its place. -/
structure TakesOrRefuses (m : Machine) (word : Int) : Prop where
  taken : IsInstructionWord word → ∀ f, m.step.2 = .error f → f.kind ≠ .invalidOpcode
  refused : ¬ IsInstructionWord word → Text.isWritable word = true →
    ∃ f, m.step.2 = .error f ∧ f.cause.isOwn = true ∧ f.kind = .invalidOpcode ∧
      f.reason =
        (if 900 ≤ word ∧ word ≤ 999 then "Invalid I/O opcode: " else "Invalid opcode: ") ++
          Text.zeroPadded 3 word
  overflowing : Text.isWritable word = false →
    ∃ f, m.step.2 = .error f ∧ f.reported = { cause := .overflow .writing }

/-- A running machine takes or refuses what it fetches. -/
theorem takesOrRefuses {m : Machine} {word : Int} (running : m.registers.halted = false)
    (read : m.memory.read m.registers.pc = .ok word) : m.TakesOrRefuses word := by
  constructor
  · intro hword f hf
    have hdecode := mt decode?_eq_none_iff.mp (not_not.mpr hword)
    obtain ⟨i, hdecode⟩ := Option.ne_none_iff_exists'.mp hdecode
    rw [step_of_decode? running read hdecode] at hf
    split at hf
    · next after cause hperform =>
      obtain rfl := Except.error.inj hf
      unfold Fault.kind
      rw [Fault.cause_ofCause]
      exact kind_of_perform hperform
    · next after hperform =>
      rw [complete_stop] at hf
      cases hf
  · intro hword hwritable
    have hown : (Fault.Cause.noInstruction word).isOwn = true := hwritable
    rw [step_of_decode?_none running read (decode?_eq_none_iff.mpr hword)]
    refine ⟨_, rfl, ?_⟩
    rw [Fault.ofCause_of_isOwn _ _ hown]
    refine ⟨hown, rfl, ?_⟩
    have hrange : word / 100 = 9 ↔ 900 ≤ word ∧ word ≤ 999 := by omega
    unfold Fault.reason Fault.Cause.reason
    simp only [hrange]
  · intro hoverflow
    have hword := not_isInstructionWord_of_isWritable hoverflow
    rw [step_of_decode?_none running read (decode?_eq_none_iff.mpr hword)]
    refine ⟨_, rfl, ?_⟩
    have hforeign : (Fault.Cause.noInstruction word).isOwn = false := hoverflow
    have hcause : (Fault.Cause.noInstruction word).isWritable = false := hoverflow
    unfold Fault.ofCause Fault.reported Fault.isWritable
    rw [if_neg (Bool.eq_false_iff.mp hforeign)]
    dsimp only
    rw [hcause]
    rfl

/-- Decoding and disassembling are exact on a number. -/
structure IsExactOn (word : Int) : Prop where
  /-- Decoding tells what the number carries. -/
  decoded : ∀ d, decoded? word = some d ↔ Carries word d
  defined : decoded? word ≠ none ↔ IsInstructionWord word
  /-- A mailbox that is told is one. -/
  address : ∀ name a, decoded? word = some (name, some a) → IsAddress a
  /-- The seven instructions on a mailbox tell it, and it makes up the number with their digit. -/
  digit : ∀ name digit operand, (name, digit) ∈ hundreds →
    decoded? word = some (name, operand) → ∃ a, operand = some a ∧ digit * 100 + a = word
  /-- Of other numbers decoding tells the same only if both are halts. -/
  unique : ∀ word' d, decoded? word = some d → decoded? word' = some d →
    word = word' ∨ ((0 ≤ word ∧ word ≤ 99) ∧ 0 ≤ word' ∧ word' ≤ 99)
  /-- A machine that fetches the number takes it or refuses it. -/
  fetched : ∀ m : Machine, m.registers.halted = false →
    m.memory.read m.registers.pc = .ok word → m.TakesOrRefuses word
  /-- It is disassembled if it does not have too many digits. -/
  written : writeDisassembled word =
    if Text.isWritable word then .ok (disassemble word) else .error .writing
  /-- The number is disassembled as a directive if it carries no instruction. -/
  directive : "DAT " <+: disassemble word ↔ decoded? word = none
  /-- The text says what decoding tells, and in a directive the number. -/
  said : readDisassembly? (disassemble word) = some ((decoded? word).getD ("DAT", some word))
  /-- Of other numbers it is the text only if both are halts. -/
  text : ∀ word', disassemble word = disassemble word' →
    word = word' ∨ ((0 ≤ word ∧ word ≤ 99) ∧ 0 ≤ word' ∧ word' ≤ 99)

/-- The decoder is exact on all integers, of any size and sign. It finds an instruction in the
numbers from 0 to 399, from 500 to 899, in 901 and in 902, and a machine refuses all others that can
be written as no instruction and nothing else as that. A mailbox that is told is one, and for the
seven instructions on a mailbox it makes up the number together with the hundreds digit, so that
only halts are decoded alike. Disassembled, exactly the numbers that carry no instruction are
directives, and every text says what was decoded, or the number; a number with too many digits has
no text. -/
theorem decoder_exact (word : Int) : IsExactOn word where
  decoded _ := decoded?_eq_some_iff
  defined := by
    rw [← exists_carries_iff, Option.ne_none_iff_exists']
    exact exists_congr fun _ => decoded?_eq_some_iff
  address name a h := by
    cases decoded?_eq_some_iff.mp h with
    | addressed _ _ _ _ isAddress => exact isAddress
  digit name digit operand hmem h := by
    have hname : name ∈ hundreds.map Prod.fst := List.mem_map_of_mem hmem
    cases decoded?_eq_some_iff.mp h with
    | addressed _ digit' a known =>
      exact ⟨a, rfl, by rw [hundreds_unique hmem known, Int.mul_comm]⟩
    | halt | input | output => exact absurd hname (by decide)
  unique word' d h h' := (decoded?_eq_some_iff.mp h).eq_or_halts (decoded?_eq_some_iff.mp h')
  fetched _ := takesOrRefuses
  written := by
    cases hwritable : Text.isWritable word with
    | true => exact writeDisassembled_of_isWritable hwritable
    | false => exact writeDisassembled_of_not_isWritable hwritable
  directive := by
    rw [directive_prefix_iff, ← decode?_eq_none_iff, decoded?, Option.map_eq_none_iff]
  said := readDisassembly?_disassemble word
  text _ := eq_or_halts_of_disassemble

/-- A number that is one digit too long has no text, and a machine that fetches it cannot refuse it
as no instruction. -/
theorem exists_word_without_text : ∃ (word : Int) (m : Machine) (f : Fault),
    ¬ IsInstructionWord word ∧ writeDisassembled word = .error .writing ∧
      m.memory.read m.registers.pc = .ok word ∧ m.step.2 = .error f ∧
        f.reported = { cause := .overflow .writing } := by
  let word : Int := ((10 ^ Text.digitLimit : Nat) : Int)
  let m : Machine := { memory := { cells := [word] } }
  have hlong : Text.isWritable word = false := Text.not_isWritable_pow
  have hread : m.memory.read m.registers.pc = .ok word := rfl
  obtain ⟨f, hf, hreported⟩ := (takesOrRefuses rfl hread).overflowing hlong
  exact ⟨word, m, f, not_isInstructionWord_of_isWritable hlong,
    writeDisassembled_of_not_isWritable hlong, hread, hf, hreported⟩

end Machine

end LittleMan
