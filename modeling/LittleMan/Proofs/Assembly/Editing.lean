import LittleMan.Proofs.Assembly.Respelling
import Mathlib.Logic.Relation

/-!
# Editing the layout of a source

What can be done to a source without a change of its program: lines that hold no statement come and
go, and a line is spelled in another way (`Edit`). Comments and blanks do not change the fields of
a line (`LineEdit.keeps`), and a field that is spelled in another way keeps its place among the
fields: a mnemonic stays one, and a label stays none, with its colon and without. So one edit leads
to a source whose statements mirror the old ones with the labels they had (`Edit.exists_readsAs`),
and so do many (`assemble_edited`).
-/

namespace LittleMan

namespace Assembly

/-- The text consists of blanks, or is empty. -/
def IsBlankText (t : Text) : Prop :=
  ∀ c ∈ t, Text.isBlank c = true

/-- The text is a comment, or empty. -/
def IsComment (t : Text) : Prop :=
  t = [] ∨ ∃ rest, t = '#' :: rest

/-- An edit of a line. -/
inductive LineEdit : Text → Text → Prop where
  /-- A comment is added, changed or removed. -/
  | comment (code old new : Text) (clear : '#' ∉ code) (isComment : IsComment old)
      (isComment' : IsComment new) : LineEdit (code ++ old) (code ++ new)
  /-- The blanks in front of the fields are changed. -/
  | leading (old new rest : Text) (blank : IsBlankText old) (blank' : IsBlankText new) :
      LineEdit (old ++ rest) (new ++ rest)
  /-- The blanks between fields are changed, but not taken away. -/
  | between (front old new rest : Text) (clear : '#' ∉ front) (ne_nil : old ≠ [])
      (ne_nil' : new ≠ []) (blank : IsBlankText old) (blank' : IsBlankText new) :
      LineEdit (front ++ (old ++ rest)) (front ++ (new ++ rest))
  /-- The blanks behind the fields are changed. -/
  | trailing (code old new rest : Text) (clear : '#' ∉ code) (blank : IsBlankText old)
      (blank' : IsBlankText new) (isComment : IsComment rest) :
      LineEdit (code ++ (old ++ rest)) (code ++ (new ++ rest))
  /-- The mnemonic is replaced by a field with the same upper case, or with the other name of the
  instruction as its upper case. -/
  | mnemonic (line m : Text) (w : Statement) (arranged : arrange (lineFields line) = .ok (some w))
      (isField : IsLineField m)
      (same : instructionName (Text.upper m) = instructionName (Text.upper w.mnemonic)) :
      LineEdit line (withFields { w with mnemonic := m }.written line)
  /-- A label gets a colon. -/
  | addColon (line name : Text) (w : Statement)
      (arranged : arrange (lineFields line) = .ok (some w)) (label : w.label = some name)
      (plain : name.getLast? ≠ some ':') :
      LineEdit line (withFields { w with label := some (name ++ [':']) }.written line)
  /-- A label loses its colon. -/
  | removeColon (line name : Text) (w : Statement)
      (arranged : arrange (lineFields line) = .ok (some w))
      (label : w.label = some (name ++ [':'])) :
      LineEdit line (withFields { w with label := some name }.written line)
  /-- A literal gets zeros in front, as many as can be read. -/
  | zeros (line operand zeros : Text) (w : Statement)
      (arranged : arrange (lineFields line) = .ok (some w)) (operand_eq : w.operand = some operand)
      (digits : IsLiteral operand) (zero : ∀ c ∈ zeros, c = '0')
      (short : (zeros ++ operand).length ≤ 4300) :
      LineEdit line (withFields { w with operand := some (zeros ++ operand) }.written line)

/-- An edit of a source. -/
inductive Edit : List Text → List Text → Prop where
  /-- A line without a statement is put in. -/
  | insert (front back : List Text) (blanks comment : Text) (blank : IsBlankText blanks)
      (isComment : IsComment comment) :
      Edit (front ++ back) (front ++ (blanks ++ comment) :: back)
  /-- A line without a statement is taken out. -/
  | delete (front back : List Text) (blanks comment : Text) (blank : IsBlankText blanks)
      (isComment : IsComment comment) :
      Edit (front ++ (blanks ++ comment) :: back) (front ++ back)
  /-- A line is edited. -/
  | line (front back : List Text) (old new : Text) (edit : LineEdit old new) :
      Edit (front ++ old :: back) (front ++ new :: back)

/-! ### Blanks and comments -/

section

variable {blanks comment front rest : Text}

/-- Nothing stands before a comment. -/
lemma IsComment.before_eq (h : IsComment comment) : Text.before '#' comment = [] := by
  obtain rfl | ⟨rest, rfl⟩ := h <;> rfl

/-- A blank opens no comment. -/
lemma IsBlankText.not_mem (h : IsBlankText blanks) : '#' ∉ blanks :=
  fun hmem => absurd (h '#' hmem) (by decide)

/-- The fields of a line with a comment. -/
lemma lineFields_comment (hclear : '#' ∉ front) (h : IsComment comment) :
    lineFields (front ++ comment) = Text.fields front := by
  unfold lineFields
  rw [before_append hclear, h.before_eq, List.append_nil]

/-- The fields of a line with blanks in front. -/
lemma lineFields_leading (h : IsBlankText blanks) :
    lineFields (blanks ++ rest) = lineFields rest := by
  unfold lineFields
  rw [before_append h.not_mem, Text.fields_blank_append h]

/-- The fields of a line with blanks between two parts of it. -/
lemma lineFields_between (hclear : '#' ∉ front) (hne : blanks ≠ []) (h : IsBlankText blanks) :
    lineFields (front ++ (blanks ++ rest)) = Text.fields front ++ lineFields rest := by
  unfold lineFields
  rw [before_append hclear, before_append h.not_mem]
  obtain ⟨b, blanks, rfl⟩ := List.exists_cons_of_ne_nil hne
  have hrest : ∀ c ∈ blanks, Text.isBlank c = true := fun c hc => h c (List.mem_cons_of_mem b hc)
  rw [List.cons_append, Text.fields_append_blank_cons (h b List.mem_cons_self),
    Text.fields_blank_append hrest]

/-- The fields of a line with blanks behind them. -/
lemma lineFields_trailing (hclear : '#' ∉ front) (h : IsBlankText blanks) (hrest : IsComment rest) :
    lineFields (front ++ (blanks ++ rest)) = Text.fields front := by
  have hcode : '#' ∉ front ++ blanks := fun hmem =>
    (List.mem_append.mp hmem).elim hclear h.not_mem
  rw [← List.append_assoc, lineFields_comment hcode hrest, Text.fields_append_of_blank _ h]

/-- A line of blanks and a comment has no fields. -/
lemma lineFields_eq_nil (h : IsBlankText blanks) (hcomment : IsComment comment) :
    lineFields (blanks ++ comment) = [] := by
  rw [lineFields_comment h.not_mem hcomment, Text.fields_eq_nil_of_blank h]

end

/-! ### Fields -/

/-- An operand is the same as itself. -/
lemma SameOperand.refl (operand : Text) : SameOperand id operand operand := by
  by_cases h : IsLiteral operand
  · exact .literal operand h h id rfl
  · exact .renamed h

/-- A statement is a way to write itself. -/
lemma Respells.refl (w : Statement) : Respells id w w where
  label := by
    cases w.label with
    | none => exact .none
    | some field => exact .some fun _ h => h
  mnemonic := rfl
  operand := by
    cases w.operand with
    | none => exact .none
    | some operand => exact .some (.refl operand)

/-- A statement mirrors itself. -/
lemma Mirrors.refl (s : Statement) : Mirrors id s s where
  label := by cases s.label <;> rfl
  mnemonic := rfl
  operand := (Respells.refl s).operand

section

variable {line line' : Text} {s w w' : Statement}

/-- A field that defines a label does so with a colon, too. -/
lemma DefinesLabel.add_colon {field name : Text} (h : DefinesLabel field name)
    (plain : field.getLast? ≠ some ':') : DefinesLabel (field ++ [':']) name := by
  obtain ⟨rfl | rfl, hname, hfree⟩ := h
  · exact ⟨.inr rfl, hname, hfree⟩
  · exact absurd List.getLast?_concat plain

/-- A field that defines a label with a colon does so without. -/
lemma DefinesLabel.remove_colon {field name : Text} (h : DefinesLabel (field ++ [':']) name) :
    DefinesLabel field name := by
  obtain ⟨hfield, hname, hfree⟩ := h
  rcases hfield with rfl | hfield
  · exact absurd List.getLast?_concat hname.getLast?_ne_colon
  · exact ⟨.inl (List.append_cancel_right hfield), hname, hfree⟩

/-- A literal is the same one with zeros in front. -/
lemma sameOperand_zeros {operand zeros : Text} (digits : IsLiteral operand)
    (zero : ∀ c ∈ zeros, c = '0') (short : (zeros ++ operand).length ≤ 4300) :
    IsLiteral (zeros ++ operand) ∧ SameOperand id operand (zeros ++ operand) := by
  have hliteral : IsLiteral (zeros ++ operand) := by
    refine ⟨List.append_ne_nil_of_right_ne_nil zeros digits.1, fun c hc => ?_⟩
    rcases List.mem_append.mp hc with hc | hc
    · rw [zero c hc]
      unfold IsDecimalDigit
      decide
    · exact digits.2 c hc
  have hvalue : Text.digitsValue (zeros ++ operand) = Text.digitsValue operand := by
    rw [List.eq_replicate_of_mem zero, Text.digitsValue, Nat.ofDigitChars_append,
      Nat.ofDigitChars_replicate_zero, Nat.mul_zero]
    rfl
  exact ⟨hliteral, .literal _ digits hliteral (fun _ => short) hvalue⟩

/-- What an edit of a line keeps: a line without fields has none, and a line with a statement has a
statement that mirrors it, with the same label. -/
def Keeps (line line' : Text) : Prop :=
  (lineFields line = [] → lineFields line' = []) ∧
    ∀ s, Reads (lineFields line) s → ∃ s', Reads (lineFields line') s' ∧ Mirrors id s s'

/-- It keeps everything if it keeps the fields. -/
lemma keeps_of_eq (h : lineFields line' = lineFields line) : Keeps line line' := by
  unfold Keeps
  rw [h]
  exact ⟨id, fun s hs => ⟨s, hs, .refl s⟩⟩

/-- It does if it spells the statement in another way. -/
lemma keeps_withFields (harranged : arrange (lineFields line) = .ok (some w))
    (hrespells : Respells id w w')
    (hfields : ∀ s, w.check = .ok s → ∀ t ∈ w'.written, IsLineField t) :
    Keeps line (withFields w'.written line) := by
  refine ⟨fun hnil => ?_, fun s hs => ?_⟩
  · rw [hnil] at harranged
    cases harranged
  · obtain ⟨written, hwritten, hcheck⟩ := (reads_iff_arrange _ s).mp hs
    obtain rfl : w = written := Option.some.inj (Except.ok.inj (harranged.symm.trans hwritten))
    exact hs.respell_line harranged hrespells (hfields s hcheck)

/-- An edit of a line keeps what the line says. -/
theorem LineEdit.keeps (h : LineEdit line line') : Keeps line line' := by
  cases h with
  | comment code old new clear isComment isComment' =>
    apply keeps_of_eq
    rw [lineFields_comment clear isComment, lineFields_comment clear isComment']
  | leading old new rest blank blank' =>
    apply keeps_of_eq
    rw [lineFields_leading blank, lineFields_leading blank']
  | between front old new rest clear ne_nil ne_nil' blank blank' =>
    apply keeps_of_eq
    rw [lineFields_between clear ne_nil blank, lineFields_between clear ne_nil' blank']
  | trailing code old new rest clear blank blank' isComment =>
    apply keeps_of_eq
    rw [lineFields_trailing clear blank isComment, lineFields_trailing clear blank' isComment]
  | mnemonic line m w arranged isField same =>
    obtain ⟨hlabel, -, hoperand⟩ := forall_mem_written.mp (isLineField_of_arrange arranged)
    have hrespells : Respells id w { w with mnemonic := m } :=
      { Respells.refl w with mnemonic := same }
    exact keeps_withFields arranged hrespells fun _ _ =>
      forall_mem_written.mpr ⟨hlabel, isField, hoperand⟩
  | addColon line name w arranged label plain =>
    obtain ⟨hlabel, hmnemonic, hoperand⟩ := forall_mem_written.mp (isLineField_of_arrange arranged)
    have hrespells : Respells id w { w with label := some (name ++ [':']) } :=
      { Respells.refl w with label := label ▸ .some fun _ h => h.add_colon plain }
    refine keeps_withFields arranged hrespells fun _ _ =>
      forall_mem_written.mpr ⟨?_, hmnemonic, hoperand⟩
    rintro t ⟨⟩
    exact (hlabel name label).colon
  | removeColon line name w arranged label =>
    obtain ⟨-, hmnemonic, hoperand⟩ := forall_mem_written.mp (isLineField_of_arrange arranged)
    have hrespells : Respells id w { w with label := some name } :=
      { Respells.refl w with label := label ▸ .some fun _ h => h.remove_colon }
    refine keeps_withFields arranged hrespells fun s hcheck =>
      forall_mem_written.mpr ⟨?_, hmnemonic, hoperand⟩
    rintro t ⟨⟩
    -- the name is not empty, since the line has a statement only if it defines a label
    obtain ⟨hlabel, -⟩ := label_of_check hcheck
    rw [label] at hlabel
    generalize s.label = defined at hlabel
    cases hlabel with
    | some hdefines => exact hdefines.remove_colon.isLineField
  | zeros line operand zeros w arranged operand_eq digits zero short =>
    obtain ⟨hlabel, hmnemonic, -⟩ := forall_mem_written.mp (isLineField_of_arrange arranged)
    obtain ⟨hliteral, hsame⟩ := sameOperand_zeros digits zero short
    have hrespells : Respells id w { w with operand := some (zeros ++ operand) } :=
      { Respells.refl w with operand := operand_eq ▸ .some hsame }
    refine keeps_withFields arranged hrespells fun _ _ =>
      forall_mem_written.mpr ⟨hlabel, hmnemonic, ?_⟩
    rintro t ⟨⟩
    exact hliteral.isLineField

end

/-! ### Sources -/

section

variable {lines lines' : List Text} {program : List Statement} {image : List Int}

/-- A line without a statement adds nothing to a source. -/
lemma codeLines_insert {line : Text} (h : lineFields line = []) (front back : List Text) :
    codeLines (front ++ line :: back) = codeLines (front ++ back) := by
  unfold codeLines
  rw [List.filter_append, List.filter_append, List.filter_cons_of_neg (by simp [h])]

/-- An edited source is read as a program that mirrors the program of the source, with the same
labels. -/
theorem Edit.exists_readsAs (h : Edit lines lines') (hreads : ReadsAs lines program) :
    ∃ program', ReadsAs lines' program' ∧ List.Forall₂ (Mirrors id) program program' := by
  have hsame : List.Forall₂ (Mirrors id) program program :=
    List.forall₂_same.mpr fun s _ => .refl s
  cases h with
  | insert front back blanks comment blank isComment =>
    have hblank := lineFields_eq_nil blank isComment
    refine ⟨program, ?_, hsame⟩
    unfold ReadsAs at hreads ⊢
    rw [codeLines_insert hblank]
    exact hreads
  | delete front back blanks comment blank isComment =>
    have hblank := lineFields_eq_nil blank isComment
    refine ⟨program, ?_, hsame⟩
    unfold ReadsAs at hreads ⊢
    rw [codeLines_insert hblank] at hreads
    exact hreads
  | line front back old new edit =>
    have hkeeps (line : Text) : Keeps line line := keeps_of_eq rfl
    have hlines : List.Forall₂ Keeps (front ++ old :: back) (front ++ new :: back) :=
      List.rel_append (List.forall₂_same.mpr fun line _ => hkeeps line)
        (.cons edit.keeps (List.forall₂_same.mpr fun line _ => hkeeps line))
    exact hreads.exists_forall₂ (hlines.imp fun _ _ hline => ⟨hline.1, fun s _ => hline.2 s⟩)

/-- An edit of a source that assembles leaves its image, its size and its labels. -/
theorem assemble_of_edit {source source' : Source} (h : Edit source.toLines source'.toLines)
    (hassemble : assemble source = .ok image) :
    assemble source' = .ok image ∧ (ofSource source').size = (ofSource source).size ∧
      (ofSource source').symbols = (ofSource source).symbols := by
  obtain ⟨program, hprogram, himage⟩ := exists_isProgram_of_assemble hassemble
  obtain ⟨program', hreads, hmirrors⟩ := h.exists_readsAs hprogram.readsAs
  have hinjective : ∀ name ∈ labels program, ∀ name' ∈ labels program,
      id name = id name' → name = name' := fun _ _ _ _ heq => heq
  have hresult := assemble_of_mirrors hprogram himage hinjective hreads hmirrors
  rwa [Prod.map_id, List.map_id] at hresult

end

/-- Layout does not matter. A source that comes from one that assembles by any number of edits, in
any combination, assembles too: to the same image, with the same size and the same labels. -/
theorem assemble_edited {source source' : Source} {image : List Int}
    (h : assemble source = .ok image)
    (hedits : Relation.ReflTransGen Edit source.toLines source'.toLines) :
    assemble source' = .ok image ∧ (ofSource source').size = (ofSource source).size ∧
      (ofSource source').symbols = (ofSource source).symbols := by
  suffices hlines : ∀ lines', Relation.ReflTransGen Edit source.toLines lines' →
      assemble (.lines lines') = .ok image ∧
        (ofSource (.lines lines')).size = (ofSource source).size ∧
        (ofSource (.lines lines')).symbols = (ofSource source).symbols from
    hlines source'.toLines hedits
  intro lines' hedits
  induction hedits with
  | refl => exact ⟨h, rfl, rfl⟩
  | @tail lines lines' _ hedit ih =>
    obtain ⟨hassemble, hsize, hsymbols⟩ := ih
    have hedit' : Edit (Source.lines lines).toLines (Source.lines lines').toLines := hedit
    obtain ⟨hassemble', hsize', hsymbols'⟩ := assemble_of_edit hedit' hassemble
    exact ⟨hassemble', hsize'.trans hsize, hsymbols'.trans hsymbols⟩

/-- A source that copies a word. -/
def copying : List Text :=
  ["LDA x", "STO 9", "HLT", "x DAT 5"]

/-- The same in another layout. -/
def copyingSpaced : List Text :=
  ["# copy", "LDA\t x", "ſta 009", "HLT", "x DAT 5"]

/-- A source with a comment put in, other blanks in a line, and another mnemonic and zeros in a
second one. -/
theorem assemble_edited_copying :
    assemble (.lines copyingSpaced) = .ok (padded [503, 309, 0, 5]) ∧
      (ofSource (.lines copyingSpaced)).size = (ofSource (.lines copying)).size ∧
      (ofSource (.lines copyingSpaced)).symbols = (ofSource (.lines copying)).symbols := by
  have hblanks : LineEdit "LDA x" "LDA\t x" :=
    .between "LDA" " " "\t " "x" (by decide) (by decide) (by decide) (List.all_eq_true.mp rfl)
      (List.all_eq_true.mp rfl)
  have hmnemonic : LineEdit "STO 9" "ſta 9" := by
    have hmem : "ſta".toList ∈ lineFields "ſta" := by decide +kernel
    exact .mnemonic "STO 9" "ſta" ⟨none, "STO", some "9"⟩ (by decide +kernel)
      (isLineField_of_mem_lineFields _ hmem) (by decide +kernel)
  have hzeros : LineEdit "ſta 9" "ſta 009" :=
    .zeros "ſta 9" "9" "00" ⟨none, "ſta", some "9"⟩ (by decide +kernel) rfl
      ((isNumeral_iff _).mp rfl) (fun _ hc => List.eq_of_mem_replicate (n := 2) hc)
      (by decide)
  have hedits : Relation.ReflTransGen Edit (Source.lines copying).toLines
      (Source.lines copyingSpaced).toLines := by
    refine .head (.insert [] copying [] "# copy" nofun (.inr ⟨_, rfl⟩)) ?_
    refine .head (.line ["# copy"] ["STO 9", "HLT", "x DAT 5"] _ _ hblanks) ?_
    refine .head (.line ["# copy", "LDA\t x"] ["HLT", "x DAT 5"] _ _ hmnemonic) ?_
    exact .single (.line ["# copy", "LDA\t x"] ["HLT", "x DAT 5"] _ _ hzeros)
  have himage : assemble (.lines copying) = .ok (padded [503, 309, 0, 5]) := by decide +kernel
  exact assemble_edited himage hedits

end Assembly

end LittleMan
