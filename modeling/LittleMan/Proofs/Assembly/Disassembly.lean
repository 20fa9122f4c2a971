import LittleMan.Proofs.Assembly.Decoding
import LittleMan.Proofs.MachineCode
import LittleMan.Proofs.Text.Refill

/-!
# Assembling what was disassembled

A disassembled word is a line of assembly text. The disassembler writes the name of the instruction
and its mailbox in columns, or a directive with the whole word; the assembler splits the line into
fields, looks the first one up in a table of its own and checks the second one against a limit of
its own. What the two have in common is the statement that the line shows (`statementOfWord`): the
line is that statement in columns (`disassemble_eq`) and reads as it (`IsListed.reads`), and the
statement encodes to the word, but for the words from 001 to 099, which all halt and come back as
000 (`encodes_statementOfWord`).

So a list of at most a hundred words, disassembled line by line, is a program, and it assembles to
an image of the list (`assemble_disassemble`).
-/

namespace LittleMan

namespace Assembly

/-! ### The statement of a word -/

/-- The statement that a disassembled word shows. -/
def statementOfWord (w : Int) : Statement :=
  match Instruction.decode? w with
  | some i => ⟨none, i.mnemonic, i.operand?.map (Text.zeroPadded 2)⟩
  | none => ⟨none, dataDirective, some (Text.zeroPadded 3 w)⟩

/-- A statement without label as text, the operand in column five. -/
def Statement.inColumns (s : Statement) : Text :=
  match s.operand with
  | some operand => s.mnemonic.rightpad 4 ' ' ++ operand
  | none => s.mnemonic

/-- A disassembled word is its statement in columns. -/
lemma disassemble_eq (w : Int) : disassemble w = (statementOfWord w).inColumns := by
  unfold disassemble statementOfWord
  cases Instruction.decode? w with
  | none => rfl
  | some i =>
    cases hoperand : i.operand? with
    | none => simp only [Instruction.text, Statement.inColumns, hoperand, Option.map_none]
    | some a => simp only [Instruction.text, Statement.inColumns, hoperand, Option.map_some]

/-- The mnemonics that the disassembler uses. -/
def listedNames : List Text :=
  dataDirective :: addressedNames ++ fixedNames

/-- A statement of the form that the disassembler writes. -/
structure IsListed (s : Statement) : Prop where
  label : s.label = none
  mnemonic : s.mnemonic ∈ listedNames
  operand : ∀ operand, s.operand = some operand → IsLiteral operand

/-- A field of digits is a literal. -/
lemma isLiteral_zeroPadded (width n : Nat) : IsLiteral (Text.zeroPadded width n) :=
  (value?_eq_some_iff_isLiteral.mp (Text.value?_zeroPadded width n)).1

/-- The name of an instruction is one of the mnemonics that the disassembler uses. -/
lemma mnemonic_mem_listedNames (i : Instruction) : i.mnemonic ∈ listedNames := by
  cases i <;> simp only [Instruction.mnemonic] <;> decide

/-- The statement of a word is of that form. -/
lemma isListed_statementOfWord {w : Int} (hw : IsWord w) : IsListed (statementOfWord w) := by
  unfold statementOfWord
  split
  · next i hdecode =>
    refine ⟨rfl, mnemonic_mem_listedNames i, fun operand hoperand => ?_⟩
    obtain ⟨a, ha, rfl⟩ := Option.map_eq_some_iff.mp hoperand
    have haddress : IsAddress a := Instruction.isAddress_of_decode? hdecode ha
    obtain ⟨n, rfl⟩ := Int.eq_ofNat_of_zero_le haddress.1
    exact isLiteral_zeroPadded 2 n
  · next hdecode =>
    refine ⟨rfl, List.mem_cons_self, fun operand hoperand => ?_⟩
    obtain rfl := Option.some.inj hoperand
    obtain ⟨n, rfl⟩ := Int.eq_ofNat_of_zero_le hw.1
    exact isLiteral_zeroPadded 3 n

/-! ### Reading a listed statement -/

/-- A mnemonic that the disassembler uses is one of the assembler in the case that the assembler
knows it by, and it leaves a column for a blank in front of the operand. -/
lemma listedNames_spec : ∀ m ∈ listedNames, Text.upper m = m ∧ isMnemonic m = true ∧ m ≠ [] ∧
    m.length < 4 ∧ m.all Char.isAlphanum = true := by
  decide

/-- The fields of a statement in columns are its mnemonic and its operand, if that is a field. -/
lemma Statement.fields_inColumns {s : Statement} (hmnemonic : s.mnemonic ∈ listedNames)
    (hoperand : ∀ operand, s.operand = some operand → Text.IsField operand) :
    Text.fields s.inColumns = s.mnemonic :: s.operand.toList := by
  obtain ⟨-, -, hne, hlength, hall⟩ := listedNames_spec s.mnemonic hmnemonic
  have hfield : ∀ c ∈ s.mnemonic, Text.isBlank c = false := fun c hc =>
    (MachineCode.inert_of_isAlphanum (List.all_eq_true.mp hall c hc)).not_blank
  unfold Statement.inColumns
  split
  · next operand hsome =>
    obtain ⟨hne', hfield'⟩ := hoperand operand hsome
    have hblanks : List.replicate (4 - s.mnemonic.length) ' ' ≠ [] := by
      rw [Ne, List.replicate_eq_nil_iff]
      omega
    have hblank : ∀ c ∈ List.replicate (4 - s.mnemonic.length) ' ', Text.isBlank c = true := by
      intro c hc
      rw [List.eq_of_mem_replicate hc]
      decide
    rw [hsome, List.rightpad, List.append_assoc]
    exact Text.fields_pair hne hne' hblanks hfield hfield' hblank
  · next hnone =>
    rw [hnone]
    exact Text.fields_eq_singleton hne hfield

namespace IsListed

variable {s : Statement}

/-- The operand of a listed statement is a field. -/
lemma operand_field (h : IsListed s) {operand : Text} (hoperand : s.operand = some operand) :
    operand ≠ [] ∧ ∀ c ∈ operand, c.isAlphanum = true := by
  obtain ⟨hne, hdigits⟩ := h.operand operand hoperand
  refine ⟨hne, fun c hc => ?_⟩
  have hdigit : c.isDigit = true := (isDigit_iff c).mpr (hdigits c hc)
  unfold Char.isAlphanum
  rw [hdigit, Bool.or_true]

/-- Only the blanks between the columns of a listed statement are no letters or digits. -/
lemma isAlphanum_of_mem (h : IsListed s) {c : Char} (hc : c ∈ s.inColumns) :
    c.isAlphanum = true ∨ c = ' ' := by
  obtain ⟨-, -, -, -, hall⟩ := listedNames_spec s.mnemonic h.mnemonic
  have hmnemonic := List.all_eq_true.mp hall
  unfold Statement.inColumns at hc
  split at hc
  · next operand hoperand =>
    rcases List.mem_append.mp hc with hc | hc
    · rcases List.mem_append.mp hc with hc | hc
      · exact Or.inl (hmnemonic c hc)
      · exact Or.inr (List.eq_of_mem_replicate hc)
    · exact Or.inl ((h.operand_field hoperand).2 c hc)
  · exact Or.inl (hmnemonic c hc)

/-- The fields of a listed statement are its mnemonic and its operand. -/
lemma lineFields_inColumns (h : IsListed s) :
    lineFields s.inColumns = s.mnemonic :: s.operand.toList := by
  have hbefore : Text.before '#' s.inColumns = s.inColumns := by
    refine Text.before_eq_self fun hc => ?_
    exact absurd (h.isAlphanum_of_mem hc) (by decide)
  unfold lineFields
  rw [hbefore]
  refine Statement.fields_inColumns h.mnemonic fun operand hoperand => ?_
  obtain ⟨hne, hall⟩ := h.operand_field hoperand
  exact ⟨hne, fun c hc => (MachineCode.inert_of_isAlphanum (hall c hc)).not_blank⟩

/-- A listed statement reads as itself. -/
lemma reads (h : IsListed s) : Reads (lineFields s.inColumns) s := by
  obtain ⟨hupper, hknown, -⟩ := listedNames_spec s.mnemonic h.mnemonic
  rw [h.lineFields_inColumns]
  obtain ⟨label, m, operand⟩ := s
  obtain rfl : label = none := h.label
  change Text.upper m = m at hupper
  cases operand with
  | none =>
    have hreads := Reads.mnemonic m
    rwa [hupper] at hreads
  | some operand =>
    have hreads := Reads.operand m operand ((isMnemonic_iff m).mp hknown)
    rwa [hupper] at hreads

/-- A listed statement stands on one line, which is not empty. -/
lemma isLine_inColumns (h : IsListed s) :
    s.inColumns ≠ [] ∧ ∀ c ∈ s.inColumns, Text.isLineBreak c = false := by
  refine ⟨fun hnil => ?_, fun c hc => ?_⟩
  · have hfields := h.lineFields_inColumns
    rw [hnil] at hfields
    cases hfields
  · rcases h.isAlphanum_of_mem hc with halphanum | rfl
    · exact (MachineCode.inert_of_isAlphanum halphanum).not_lineBreak
    · decide

end IsListed

/-! ### The word of the statement -/

/-- What a word becomes when it is disassembled and assembled: the words up to 099 all halt, and a
halt is assembled to 000. -/
def canonicalWord (w : Int) : Int :=
  if 1 ≤ w ∧ w ≤ 99 then 0 else w

/-- A word is its own canonical word unless it is one of the halts from 001 to 099. -/
lemma canonicalWord_eq_self_iff (w : Int) : canonicalWord w = w ↔ ¬ (1 ≤ w ∧ w ≤ 99) := by
  unfold canonicalWord
  split
  · next h => exact ⟨fun hw => by omega, fun hw => absurd h hw⟩
  · next h => exact ⟨fun _ => h, fun _ => rfl⟩

/-- The words from 000 to 099 halt. -/
lemma decode?_of_le {w : Int} (h : 0 ≤ w ∧ w ≤ 99) : Instruction.decode? w = some .hlt := by
  have hdiv : w / 100 = 0 := by omega
  simp only [Instruction.decode?, hdiv]

/-- The canonical word carries the same instruction, or none either. -/
lemma decode?_canonicalWord (w : Int) :
    Instruction.decode? (canonicalWord w) = Instruction.decode? w := by
  unfold canonicalWord
  split
  · next h =>
    have hw : Instruction.decode? w = some .hlt := decode?_of_le ⟨by omega, h.2⟩
    rw [hw]
    rfl
  · rfl

/-- A word that carries no instruction is its own canonical word. -/
lemma canonicalWord_of_decode?_eq_none {w : Int} (h : Instruction.decode? w = none) :
    canonicalWord w = w := by
  rw [canonicalWord_eq_self_iff]
  intro hw
  rw [decode?_of_le ⟨by omega, hw.2⟩] at h
  cases h

/-- The canonical word is disassembled to the same text. -/
lemma disassemble_canonicalWord (w : Int) : disassemble (canonicalWord w) = disassemble w := by
  unfold disassemble
  rw [decode?_canonicalWord]
  split
  · rfl
  · next hdecode => rw [canonicalWord_of_decode?_eq_none hdecode]

/-- The canonical word of an instruction is the word that carries it. -/
lemma encode_eq_canonicalWord {w : Int} {i : Instruction} (h : Instruction.decode? w = some i) :
    i.encode = canonicalWord w := by
  rcases Instruction.encode_of_decode? h with ⟨rfl, hlow, hhigh⟩ | ⟨hle, hencode⟩
  · change 0 = canonicalWord w
    unfold canonicalWord
    split <;> omega
  · rw [hencode, eq_comm, canonicalWord_eq_self_iff]
    omega

/-- An instruction without operand is in the vocabulary, with the same word. -/
lemma mem_fixedWords {i : Instruction} (h : i.operand? = none) :
    (i.mnemonic, i.encode) ∈ fixedWords := by
  cases i with
  | hlt | inp | out => simp only [Instruction.mnemonic, Instruction.encode]; decide
  | _ => cases h

/-- An instruction on a mailbox is in the vocabulary, with the same word for mailbox zero. -/
lemma mem_addressedWords {i : Instruction} {a : Int} (h : i.operand? = some a) :
    ∃ base, (i.mnemonic, base) ∈ addressedWords ∧ i.encode = base + a := by
  cases i with
  | hlt | inp | out => cases h
  | _ =>
    obtain rfl := Option.some.inj h
    exact ⟨_, by simp only [Instruction.mnemonic]; decide, rfl⟩

variable (program : List Statement)

/-- A field of two or three digits denotes its number, if the limit allows it. -/
lemma denotes_zeroPadded {width limit n : Nat} (hlow : 2 ≤ width) (hhigh : width ≤ 3)
    (hn : n < 10 ^ width) (h : n ≤ limit) :
    Denotes program limit (Text.zeroPadded width n) n := by
  obtain ⟨hliteral, hvalue⟩ := value?_eq_some_iff_isLiteral.mp (Text.value?_zeroPadded width n)
  have hlength : (Text.zeroPadded width n).length = width :=
    (Text.field_of_nonneg (by omega) (Int.natCast_nonneg n) (by exact_mod_cast hn)).1
  have hdenotes : Denotes program limit (Text.zeroPadded width n) _ :=
    .literal hliteral (by omega) (hvalue.le.trans h)
  rwa [hvalue] at hdenotes

/-- An instruction as a statement encodes to its word. -/
lemma encodes_instruction (i : Instruction) (h : ∀ a, i.operand? = some a → IsAddress a) :
    Encodes program ⟨none, i.mnemonic, i.operand?.map (Text.zeroPadded 2)⟩ i.encode := by
  cases hoperand : i.operand? with
  | none => exact Encodes.fixed none i.mnemonic i.encode (mem_fixedWords hoperand)
  | some a =>
    obtain ⟨hlow, hhigh⟩ := h a hoperand
    obtain ⟨base, hbase, hencode⟩ := mem_addressedWords hoperand
    obtain ⟨n, rfl⟩ := Int.eq_ofNat_of_zero_le hlow
    rw [hencode]
    exact Encodes.addressed none i.mnemonic _ base n hbase
      (denotes_zeroPadded program (by decide) (by decide) (by omega) (by omega))

/-- The statement of a word encodes to the canonical word. -/
lemma encodes_statementOfWord {w : Int} (hw : IsWord w) :
    Encodes program (statementOfWord w) (canonicalWord w) := by
  unfold statementOfWord
  split
  · next i hdecode =>
    rw [← encode_eq_canonicalWord hdecode]
    exact encodes_instruction program i fun a => Instruction.isAddress_of_decode? hdecode
  · next hdecode =>
    rw [canonicalWord_of_decode?_eq_none hdecode]
    obtain ⟨n, hn, rfl⟩ := MachineCode.exists_eq_natCast_of_isWord hw
    exact Encodes.data none _ n (denotes_zeroPadded program (by decide) (by decide) (by omega) hn)

/-! ### Listings -/

section

variable {words : List Int}

/-- The lines of a listing read as the statements of its words. -/
lemma readsAs_listing (h : ∀ w ∈ words, IsWord w) :
    ReadsAs (words.map disassemble) (words.map statementOfWord) := by
  induction words with
  | nil => exact List.Forall₂.nil
  | cons w words ih =>
    have hreads : Reads (lineFields (disassemble w)) (statementOfWord w) := by
      rw [disassemble_eq]
      exact (isListed_statementOfWord (h w List.mem_cons_self)).reads
    have hrest := ih fun w' hw' => h w' (List.mem_cons_of_mem w hw')
    rw [List.map_cons, List.map_cons]
    exact (readsAs_cons_of_code hreads.ne_nil _ _).mpr ⟨_, _, hreads, hrest, rfl⟩

/-- A listing defines no label. -/
lemma labels_listing (h : ∀ w ∈ words, IsWord w) : labels (words.map statementOfWord) = [] := by
  unfold labels
  rw [List.filterMap_map, List.filterMap_eq_nil_iff]
  exact fun w hw => (isListed_statementOfWord (h w hw)).label

/-- A listing of at most a hundred words is a program. -/
lemma isProgram_listing (hlength : words.length ≤ 100) (h : ∀ w ∈ words, IsWord w) :
    IsProgram (words.map disassemble) (words.map statementOfWord) := by
  refine ⟨readsAs_listing h, ?_, ?_, fun s hs => ?_⟩
  · rw [labels_listing h]
    exact List.nodup_nil
  · rwa [List.length_map]
  · obtain ⟨w, hw, rfl⟩ := List.mem_map.mp hs
    exact ⟨canonicalWord w, encodes_statementOfWord _ (h w hw)⟩

/-- Its image holds the canonical words. -/
lemma isImage_listing (hlength : words.length ≤ 100) (h : ∀ w ∈ words, IsWord w) :
    IsImage (words.map statementOfWord) (padded (words.map canonicalWord)) := by
  have hcount : (words.map canonicalWord).length = words.length := List.length_map canonicalWord
  refine ⟨length_padded (hcount.trans_le hlength), fun k s hs => ?_, fun k hk hlt => ?_⟩
  · rw [List.getElem?_map] at hs
    obtain ⟨w, hw, rfl⟩ := Option.map_eq_some_iff.mp hs
    refine ⟨canonicalWord w, encodes_statementOfWord _ (h w (List.mem_of_getElem? hw)), ?_⟩
    have hk : k < (words.map canonicalWord).length := by
      rw [hcount]
      exact (List.getElem?_eq_some_iff.mp hw).1
    rw [getElem?_padded_of_lt hk, List.getElem?_map, hw, Option.map_some]
  · rw [List.length_map] at hk
    exact getElem?_padded_of_le (hcount.trans_le hk) hlt

/-- An image has a list of words back as far as their disassembly tells them apart. -/
structure Restores (words image : List Int) : Prop where
  length_eq : image.length = 100
  /-- Every word of the list is at its position, the halts as 000. -/
  word : ∀ (k : Nat) (w : Int), words[k]? = some w →
    image[k]? = some (if 1 ≤ w ∧ w ≤ 99 then 0 else w)
  /-- There are zeros behind the list. -/
  zero : ∀ k : Nat, words.length ≤ k → k < 100 → image[k]? = some 0
  /-- Nothing has changed exactly when no word of the list is from 001 to 099. -/
  eq_padded_iff : image = padded words ↔ ∀ w ∈ words, ¬ (1 ≤ w ∧ w ≤ 99)
  /-- Every cell carries the instruction of the word before, or none if that carried none. -/
  decode? : image.map Instruction.decode? = (padded words).map Instruction.decode?
  /-- The list is disassembled to the same lines again. -/
  disassemble : (image.take words.length).map disassemble = words.map disassemble

/-- The canonical words of a list restore it. -/
lemma restores_canonical (hlength : words.length ≤ 100) :
    Restores words (padded (words.map canonicalWord)) := by
  have hcount : (words.map canonicalWord).length = words.length := List.length_map canonicalWord
  refine ⟨length_padded (hcount.trans_le hlength), ?_, ?_, ?_, ?_, ?_⟩
  · intro k w hw
    have hk : k < (words.map canonicalWord).length := by
      rw [hcount]
      exact (List.getElem?_eq_some_iff.mp hw).1
    rw [getElem?_padded_of_lt hk, List.getElem?_map, hw]
    rfl
  · intro k hk hlt
    exact getElem?_padded_of_le (hcount.trans_le hk) hlt
  · unfold padded
    rw [hcount, List.append_left_inj]
    conv_lhs => rhs; rw [← List.map_id words]
    rw [List.map_inj_left]
    exact forall₂_congr fun w _ => canonicalWord_eq_self_iff w
  · unfold padded
    rw [hcount, List.map_append, List.map_append, List.map_map]
    congr 1
    exact List.map_congr_left fun w _ => decode?_canonicalWord w
  · unfold padded
    rw [← hcount, List.take_left, List.map_map]
    exact List.map_congr_left fun w _ => disassemble_canonicalWord w

/-- A listing is a source of that many lines, be it given as lines or as a text, with a line feed
behind the last line or without. -/
lemma toLines_listing (h : ∀ w ∈ words, IsWord w) :
    (Source.text (Text.joinRows (words.map disassemble))).toLines = words.map disassemble ∧
      (Source.text (Text.closeRows (words.map disassemble))).toLines = words.map disassemble := by
  have hline : ∀ row ∈ words.map disassemble,
      row ≠ [] ∧ ∀ c ∈ row, Text.isLineBreak c = false := by
    intro row hrow
    obtain ⟨w, hw, rfl⟩ := List.mem_map.mp hrow
    rw [disassemble_eq]
    exact (isListed_statementOfWord (h w hw)).isLine_inColumns
  have hne := fun row hrow => (hline row hrow).1
  have hbreaks := fun row hrow => (hline row hrow).2
  exact ⟨Text.lines_joinRows hne hbreaks, Text.lines_closeRows hbreaks⟩

/-- At most a hundred words, disassembled line by line, assemble to an image that restores them. The
lines may come in any source that falls into them, and the listing as a text is one. -/
theorem assemble_disassemble (hlength : words.length ≤ 100) (h : ∀ w ∈ words, IsWord w) :
    (∀ source : Source, source.toLines = words.map disassemble →
      ∃ image, assemble source = .ok image ∧ Restores words image) ∧
    (Source.text (Text.joinRows (words.map disassemble))).toLines = words.map disassemble ∧
    (Source.text (Text.closeRows (words.map disassemble))).toLines = words.map disassemble := by
  refine ⟨fun source hsource => ?_, toLines_listing h⟩
  have hprogram : IsProgram source.toLines (words.map statementOfWord) := by
    rw [hsource]
    exact isProgram_listing hlength h
  obtain ⟨image, hassemble, himage⟩ := hprogram.exists_assemble_eq_ok
  obtain rfl := hprogram.resolves.isImage_unique himage (isImage_listing hlength h)
  exact ⟨_, hassemble, restores_canonical hlength⟩

end

/-- A listing with a halt that is not written 000 and a word that carries no instruction. -/
theorem assemble_disassemble_mixed :
    ∃ image, assemble (.text "IN\nSTO 99\nHLT\nDAT 400\nHLT") = .ok image ∧
      Restores [901, 399, 42, 400, 0] image :=
  (assemble_disassemble (by decide) (by decide)).1 _ (by decide)

end Assembly

end LittleMan
