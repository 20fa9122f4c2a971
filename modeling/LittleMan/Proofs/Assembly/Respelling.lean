import LittleMan.Proofs.Assembly.Decoding
import LittleMan.Proofs.MachineCode
import LittleMan.Proofs.Text.Refill

/-!
# Respelling a program

A program can be written in many ways. A line can be given other fields in the place of its own
(`withFields`), its blanks and its comment staying what they are, and it then has these fields
(`lineFields_withFields`). What the fields are, is decided by their number and by the first of them
alone. So a statement that is written with another spelling of its mnemonic, of its label and of its
operand is read as a statement of the same shape (`Reads.respell`), also if its label gets another
name.

On the side of programs, a statement mirrors another one if its mnemonic stands for the same, its
label has been renamed, and its operand stands for the same number or has been renamed like the
labels (`Mirrors`). A program that mirrors one of the language is in the language and has the same
image, the same size, and its labels stand for the same mailboxes (`assemble_of_mirrors`).
-/

namespace LittleMan

namespace Assembly

/-! ### Lines with other fields -/

/-- The text can be a field of a line: moreover it opens no comment. -/
structure IsLineField (t : Text) : Prop extends Text.IsField t where
  no_comment : '#' ∉ t

/-- The line with other fields in the place of its own; its blanks and its comment stay. -/
def withFields (new : List Text) (line : Text) : Text :=
  Text.refill new (Text.before '#' line) ++ line.dropWhile (· != '#')

section

variable {line : Text} {new : List Text}

/-- What stands before a comment has no character that opens one. -/
lemma not_mem_before (line : Text) : '#' ∉ Text.before '#' line := by
  intro hmem
  have hne := List.mem_takeWhile_imp hmem
  exact absurd hne (by decide)

/-- A comment opens where no comment was open. -/
lemma before_append {t : Text} (h : '#' ∉ t) (rest : Text) :
    Text.before '#' (t ++ rest) = t ++ Text.before '#' rest :=
  List.takeWhile_append_of_pos fun _ hc => bne_iff_ne.mpr fun heq => h (heq ▸ hc)

/-- The fields of a line can be fields of a line. -/
lemma isLineField_of_mem_lineFields : ∀ t ∈ lineFields line, IsLineField t := by
  intro t ht
  obtain ⟨hfield, hmem⟩ := Text.isField_of_mem_fields _ t ht
  exact ⟨hfield, fun hc => not_mem_before line (hmem '#' hc)⟩

/-- Letters, digits and underscores make a field of a line. -/
lemma isLineField_of_forall {t : Text} (hne : t ≠ [])
    (h : ∀ c ∈ t, IsNameLetter c ∨ IsDecimalDigit c) : IsLineField t := by
  have hchar (c : Char) (hc : IsNameLetter c ∨ IsDecimalDigit c) :
      Text.isBlank c = false ∧ c ≠ '#' := by
    rw [← opensName_iff, ← isDigit_iff, opensName, Bool.or_eq_true, beq_iff_eq] at hc
    obtain (hc | rfl) | hc := hc
    · have hinert := MachineCode.inert_of_isAlphanum (by rw [Char.isAlphanum, hc, Bool.true_or])
      exact ⟨hinert.not_blank, hinert.ne_comment⟩
    · decide
    · have hinert := MachineCode.inert_of_isDigit hc
      exact ⟨hinert.not_blank, hinert.ne_comment⟩
  exact ⟨⟨hne, fun c hc => (hchar c (h c hc)).1⟩, fun hc => (hchar '#' (h '#' hc)).2 rfl⟩

/-- A name can be a field of a line. -/
lemma IsWellFormedName.isLineField {t : Text} (h : IsWellFormedName t) : IsLineField t := by
  obtain ⟨c, rest, rfl, hc, hrest⟩ := h
  refine isLineField_of_forall (List.cons_ne_nil c rest) fun d hd => ?_
  rcases List.mem_cons.mp hd with rfl | hd
  · exact .inl hc
  · exact hrest d hd

/-- A literal can be a field of a line. -/
lemma IsLiteral.isLineField {t : Text} (h : IsLiteral t) : IsLineField t :=
  isLineField_of_forall h.1 fun c hc => .inr (h.2 c hc)

/-- A field of a line can get a colon. -/
lemma IsLineField.colon {t : Text} (h : IsLineField t) : IsLineField (t ++ [':']) := by
  have hchar : ∀ c ∈ t ++ [':'], c ∈ t ∨ c = ':' := fun c hc => by simpa using hc
  refine ⟨⟨by simp, fun c hc => ?_⟩, fun hc => ?_⟩
  · rcases hchar c hc with hc | rfl
    · exact h.not_blank c hc
    · decide
  · rcases hchar '#' hc with hc | hc
    · exact h.no_comment hc
    · exact absurd hc (by decide)

/-- A line that is given as many fields as it has then has these fields. -/
theorem lineFields_withFields (hnew : ∀ t ∈ new, IsLineField t)
    (hlength : new.length = (lineFields line).length) :
    lineFields (withFields new line) = new := by
  have hcode : '#' ∉ Text.refill new (Text.before '#' line) := by
    intro hmem
    rcases Text.mem_of_mem_refillFrom false _ hmem with hmem | ⟨t, ht, hmem⟩
    · exact not_mem_before line hmem
    · exact (hnew t ht).no_comment hmem
  have hcomment : Text.before '#' (line.dropWhile (· != '#')) = [] := by
    have hstop := List.head?_dropWhile_not (· != '#') line
    unfold Text.before
    cases hrest : line.dropWhile (· != '#') with
    | nil => rfl
    | cons c rest =>
      rw [hrest] at hstop
      rw [List.takeWhile_cons_of_neg]
      simpa using hstop
  unfold lineFields withFields
  rw [before_append hcode, hcomment, List.append_nil]
  exact Text.fields_refill _ (fun t ht => (hnew t ht).toIsField) hlength

/-- A line that is given its own fields is what it was. -/
theorem withFields_lineFields (line : Text) : withFields (lineFields line) line = line := by
  unfold withFields lineFields
  rw [Text.refill_fields]
  exact List.takeWhile_append_dropWhile

end

/-! ### Statements -/

/-- The fields of a statement as it is written. -/
def Statement.written (w : Statement) : List Text :=
  w.label.toList ++ w.mnemonic :: w.operand.toList

/-- The operand is spelled in another way, or it has been renamed. -/
inductive SameOperand (f : Text → Text) (operand : Text) : Text → Prop where
  /-- A literal may become another one of the same value, but not an overlong one. -/
  | literal (operand' : Text) (digits : IsLiteral operand) (digits' : IsLiteral operand')
      (short : operand.length ≤ 4300 → operand'.length ≤ 4300)
      (value : Text.digitsValue operand' = Text.digitsValue operand) :
      SameOperand f operand operand'
  /-- Anything else is renamed. -/
  | renamed (other : ¬ IsLiteral operand) : SameOperand f operand (f operand)

/-- The statement `w'` is another way to write `w`, with the labels renamed. -/
structure Respells (f : Text → Text) (w w' : Statement) : Prop where
  label : Option.Rel (fun field field' => ∀ name, DefinesLabel field name →
    DefinesLabel field' (f name)) w.label w'.label
  mnemonic : instructionName (Text.upper w'.mnemonic) = instructionName (Text.upper w.mnemonic)
  operand : Option.Rel (SameOperand f) w.operand w'.operand

/-- The statement `s'` mirrors `s`: it has the label renamed, the same mnemonic, or another name of
it, and the same operand, spelled differently or renamed. -/
structure Mirrors (f : Text → Text) (s s' : Statement) : Prop where
  label : s'.label = s.label.map f
  mnemonic : instructionName s'.mnemonic = instructionName s.mnemonic
  operand : Option.Rel (SameOperand f) s.operand s'.operand

section

variable {m m' : Text} {base word : Int}

/-- An instruction on a mailbox is one under both of its names. -/
lemma mem_addressedWords_instructionName :
    (instructionName m, base) ∈ addressedWords ↔ (m, base) ∈ addressedWords := by
  unfold instructionName
  split
  · next h => simp [h, addressedWords]
  · split
    · next h => simp [h, addressedWords]
    · exact Iff.rfl

/-- So is one without an operand. -/
lemma mem_fixedWords_instructionName :
    (instructionName m, word) ∈ fixedWords ↔ (m, word) ∈ fixedWords := by
  unfold instructionName
  split
  · next h => simp [h, fixedWords]
  · split
    · next h => simp [h, fixedWords]
    · exact Iff.rfl

/-- The directive has one name only. -/
lemma instructionName_eq_dataDirective_iff :
    instructionName m = dataDirective ↔ m = dataDirective := by
  unfold instructionName
  split
  · next h => simp [h, dataDirective]
  · split
    · next h => simp [h, dataDirective]
    · exact Iff.rfl

/-- A mnemonic is known under both of its names. -/
lemma isKnown_instructionName : IsKnown (instructionName m) ↔ IsKnown m := by
  unfold IsKnown
  simp only [mem_addressedWords_instructionName, mem_fixedWords_instructionName,
    instructionName_eq_dataDirective_iff]

end

section

variable {f : Text → Text} {fields : List Text} {s w w' : Statement}

/-- The fields of a statement are its label, its mnemonic and its operand. -/
lemma forall_mem_written {P : Text → Prop} : (∀ t ∈ w.written, P t) ↔
    (∀ t, w.label = some t → P t) ∧ P w.mnemonic ∧ ∀ t, w.operand = some t → P t := by
  unfold Statement.written
  rw [List.forall_mem_append, List.forall_mem_cons]
  simp only [Option.mem_toList]

/-- The fields of a line are those of the statement that they are arranged as. -/
lemma written_of_arrange (h : arrange fields = .ok (some w)) : w.written = fields := by
  rcases fields with _ | ⟨a, _ | ⟨b, _ | ⟨c, _ | ⟨d, rest⟩⟩⟩⟩
  · cases h
  · obtain rfl := Option.some.inj (Except.ok.inj h)
    rfl
  · by_cases hknown : IsKnown (Text.upper a)
    · rw [arrange_pair_of_isKnown b hknown] at h
      obtain rfl := Option.some.inj (Except.ok.inj h)
      rfl
    · rw [arrange_pair_of_not_isKnown b hknown] at h
      obtain rfl := Option.some.inj (Except.ok.inj h)
      rfl
  · obtain rfl := Option.some.inj (Except.ok.inj h)
    rfl
  · cases h

/-- The fields of the statement of a line can be fields of a line. -/
lemma isLineField_of_arrange {line : Text} (h : arrange (lineFields line) = .ok (some w)) :
    ∀ t ∈ w.written, IsLineField t := by
  rw [written_of_arrange h]
  exact isLineField_of_mem_lineFields

/-- No mnemonic ends in a colon. -/
lemma IsKnown.getLast?_ne_colon {m : Text} (h : IsKnown m) : m.getLast? ≠ some ':' := by
  have haddressed : ∀ p ∈ addressedWords, p.1.getLast? ≠ some ':' := by decide
  have hfixed : ∀ p ∈ fixedWords, p.1.getLast? ≠ some ':' := by decide
  rcases h with ⟨word, hmem⟩ | ⟨word, hmem⟩ | rfl
  · exact haddressed _ hmem
  · exact hfixed _ hmem
  · decide

/-- A field that defines a label is no mnemonic, whether it has a colon or not. -/
lemma DefinesLabel.not_isKnown {field name : Text} (h : DefinesLabel field name) :
    ¬ IsKnown (Text.upper field) := by
  obtain ⟨rfl | rfl, -, unknown⟩ := h
  · exact unknown
  · intro known
    have hupper : Text.upper (name ++ [':']) = Text.upper name ++ [':'] := List.flatMap_append
    exact known.getLast?_ne_colon (by rw [hupper, List.getLast?_concat])

/-- A field that defines a label can be a field of a line. -/
lemma DefinesLabel.isLineField {field name : Text} (h : DefinesLabel field name) :
    IsLineField field := by
  obtain ⟨rfl | rfl, hname, -⟩ := h
  · exact hname.isLineField
  · exact hname.isLineField.colon

/-- The label of a statement is the one that its label field defines, and its operand is the one
that is written. -/
lemma label_of_check (h : w.check = .ok s) :
    Option.Rel DefinesLabel w.label s.label ∧ s.operand = w.operand := by
  obtain ⟨label, m, operand⟩ := w
  cases label with
  | none =>
    obtain rfl := (check_of_label_none m operand s).mp h
    exact ⟨.none, rfl⟩
  | some field =>
    obtain ⟨name, hdefines, rfl⟩ := (check_of_label_some field m operand s).mp h
    exact ⟨.some hdefines, rfl⟩

/-- A statement that is written in another way is read as a statement that mirrors it. -/
theorem Reads.respell (h : Reads fields s) (hw : arrange fields = .ok (some w))
    (hrespells : Respells f w w') : ∃ s', Reads w'.written s' ∧ Mirrors f s s' := by
  obtain ⟨hlabel, hmnemonic, hoperand⟩ := hrespells
  obtain ⟨label', m', operand'⟩ := w'
  cases h with
  | mnemonic m =>
    obtain rfl := Option.some.inj (Except.ok.inj hw)
    cases hlabel
    cases hoperand
    exact ⟨_, .mnemonic m', rfl, hmnemonic, .none⟩
  | operand m operand known =>
    rw [arrange_pair_of_isKnown operand known] at hw
    obtain rfl := Option.some.inj (Except.ok.inj hw)
    cases hlabel
    cases hoperand with
    | some same =>
      have known' : IsKnown (Text.upper m') := by
        rw [← isKnown_instructionName] at known ⊢
        exact hmnemonic ▸ known
      exact ⟨_, .operand m' _ known', rfl, hmnemonic, .some same⟩
  | label field name m unknown defines =>
    rw [arrange_pair_of_not_isKnown m unknown] at hw
    obtain rfl := Option.some.inj (Except.ok.inj hw)
    cases hoperand
    cases hlabel with
    | some hfield =>
      have defines' := hfield name defines
      exact ⟨_, .label _ (f name) m' defines'.not_isKnown defines', rfl, hmnemonic, .none⟩
  | full field name m operand defines =>
    obtain rfl := Option.some.inj (Except.ok.inj hw)
    cases hlabel with
    | some hfield =>
      cases hoperand with
      | some same =>
        exact ⟨_, .full _ (f name) m' _ (hfield name defines), rfl, hmnemonic, .some same⟩

/-- Written in another way a statement has as many fields. -/
lemma Respells.length_written (h : Respells f w w') : w'.written.length = w.written.length := by
  obtain ⟨label, m, operand⟩ := w
  obtain ⟨label', m', operand'⟩ := w'
  obtain ⟨hlabel, -, hoperand⟩ := h
  cases hlabel <;> cases hoperand <;> rfl

/-- A line whose statement is written in another way is read as a statement that mirrors its
own. -/
theorem Reads.respell_line {line : Text} (h : Reads (lineFields line) s)
    (hw : arrange (lineFields line) = .ok (some w)) (hrespells : Respells f w w')
    (hfields : ∀ t ∈ w'.written, IsLineField t) :
    ∃ s', Reads (lineFields (withFields w'.written line)) s' ∧ Mirrors f s s' := by
  have hlength : w'.written.length = (lineFields line).length := by
    rw [hrespells.length_written, written_of_arrange hw]
  rw [lineFields_withFields hfields hlength]
  exact h.respell hw hrespells

end

/-! ### Sources -/

/-- If the lines of a source are read as statements that mirror those of another source, one line
for one, the source is read as a program that mirrors the other one. -/
lemma ReadsAs.exists_forall₂ {R : Statement → Statement → Prop} {source source' : List Text}
    {program : List Statement} (h : ReadsAs source program)
    (hlines : List.Forall₂ (fun line line' => (lineFields line = [] → lineFields line' = []) ∧
      ∀ s ∈ program, Reads (lineFields line) s → ∃ s', Reads (lineFields line') s' ∧ R s s')
      source source') :
    ∃ program', ReadsAs source' program' ∧ List.Forall₂ R program program' := by
  induction source generalizing source' program with
  | nil =>
    cases hlines
    cases h
    exact ⟨[], .nil, .nil⟩
  | cons line source ih =>
    cases hlines with
    | @cons _ line' _ source' hline hrest =>
      obtain ⟨hblank, hcode⟩ := hline
      by_cases hfields : lineFields line = []
      · obtain ⟨program', hprogram', hmirrors⟩ :=
          ih ((readsAs_cons_of_blank hfields source program).mp h) hrest
        exact ⟨program', (readsAs_cons_of_blank (hblank hfields) source' program').mpr hprogram',
          hmirrors⟩
      · obtain ⟨s, rest, hs, hprogram, rfl⟩ := (readsAs_cons_of_code hfields source program).mp h
        obtain ⟨s', hs', hsame⟩ := hcode s List.mem_cons_self hs
        obtain ⟨rest', hrest', hmirrors⟩ := ih hprogram (hrest.imp fun _ _ hline =>
          ⟨hline.1, fun t ht => hline.2 t (List.mem_cons_of_mem s ht)⟩)
        exact ⟨s' :: rest', (readsAs_cons_of_code hs'.ne_nil source' _).mpr
          ⟨s', rest', hs', hrest', rfl⟩, .cons hsame hmirrors⟩

/-! ### Programs -/

/-- Lists that are related entry by entry have related entries at the same place. -/
lemma exists_getElem?_of_forall₂ {α β : Type} {R : α → β → Prop} {l : List α} {l' : List β}
    (h : List.Forall₂ R l l') {k : Nat} {a : α} (ha : l[k]? = some a) :
    ∃ b, l'[k]? = some b ∧ R a b := by
  obtain ⟨hk, rfl⟩ := List.getElem?_eq_some_iff.mp ha
  have hk' : k < l'.length := h.length_eq ▸ hk
  exact ⟨l'[k], List.getElem?_eq_getElem hk', h.get hk hk'⟩

section

variable {f : Text → Text} {program program' : List Statement}

/-- The labels are those of the other program, renamed. -/
lemma labels_of_mirrors (h : List.Forall₂ (Mirrors f) program program') :
    labels program' = (labels program).map f := by
  induction h with
  | nil => rfl
  | @cons s s' program program' hmirrors h ih =>
    rw [labels_cons, labels_cons, ih, hmirrors.label, List.map_append]
    cases s.label <;> rfl

/-- An operand stands for what the other one stands for. -/
lemma Denotes.mirror (h : List.Forall₂ (Mirrors f) program program')
    (hnames : ∀ s ∈ program, ∀ name, s.label = some name → IsWellFormedName name)
    {limit value : Nat} {operand operand' : Text} (hdenotes : Denotes program limit operand value)
    (hsame : SameOperand f operand operand') : Denotes program' limit operand' value := by
  cases hdenotes with
  | literal digits short le =>
    cases hsame with
    | literal operand' _ digits' short' same =>
      rw [← same] at le ⊢
      exact .literal digits' (short' short) le
    | renamed other => exact absurd digits other
  | label k s at_k defined =>
    have hname : IsWellFormedName operand :=
      hnames s (List.mem_of_getElem? at_k) operand defined
    cases hsame with
    | literal operand' digits => exact absurd digits hname.not_isLiteral
    | renamed =>
      obtain ⟨s', hs', hmirrors⟩ := exists_getElem?_of_forall₂ h at_k
      exact .label _ s' hs' (by rw [hmirrors.label, defined]; rfl)

/-- A statement encodes to the word that the other one encodes to. -/
lemma Encodes.mirror (h : List.Forall₂ (Mirrors f) program program')
    (hnames : ∀ s ∈ program, ∀ name, s.label = some name → IsWellFormedName name)
    {s s' : Statement} {word : Int} (hencodes : Encodes program s word)
    (hmirrors : Mirrors f s s') : Encodes program' s' word := by
  obtain ⟨label', m', operand'⟩ := s'
  obtain ⟨-, hmnemonic, hoperand⟩ := hmirrors
  cases hencodes with
  | addressed label m operand base address known denotes =>
    cases hoperand with
    | some same =>
      rw [← mem_addressedWords_instructionName, ← hmnemonic,
        mem_addressedWords_instructionName] at known
      exact .addressed label' m' _ base address known (denotes.mirror h hnames same)
  | fixed label m word known =>
    cases hoperand
    rw [← mem_fixedWords_instructionName, ← hmnemonic, mem_fixedWords_instructionName] at known
    exact .fixed label' m' word known
  | blank label =>
    cases hoperand
    obtain rfl : m' = dataDirective := instructionName_eq_dataDirective_iff.mp hmnemonic
    exact .blank label'
  | data label operand value denotes =>
    cases hoperand with
    | some same =>
      obtain rfl : m' = dataDirective := instructionName_eq_dataDirective_iff.mp hmnemonic
      exact .data label' _ value (denotes.mirror h hnames same)

/-- The image is that of the other program. -/
lemma IsImage.mirror (h : List.Forall₂ (Mirrors f) program program')
    (hnames : ∀ s ∈ program, ∀ name, s.label = some name → IsWellFormedName name)
    {image : List Int} (himage : IsImage program image) : IsImage program' image where
  length_eq := himage.length_eq
  encodes k s' hs' := by
    obtain ⟨s, hs, hmirrors⟩ := exists_getElem?_of_forall₂ h.flip hs'
    obtain ⟨word, hword, hget⟩ := himage.encodes k s hs
    exact ⟨word, hword.mirror h hnames hmirrors, hget⟩
  zero k hk := himage.zero k (h.length_eq ▸ hk)

/-- The labels at their mailboxes are those of the other program, renamed. -/
lemma filterMap_zipIdx_of_mirrors (h : List.Forall₂ (Mirrors f) program program') (k : Nat) :
    (program'.zipIdx k).filterMap (fun p => p.1.label.map (·, p.2)) =
      ((program.zipIdx k).filterMap fun p => p.1.label.map (·, p.2)).map (Prod.map f id) := by
  induction h generalizing k with
  | nil => rfl
  | @cons s s' program program' hmirrors h ih =>
    rw [List.zipIdx_cons, List.zipIdx_cons, List.filterMap_cons, List.filterMap_cons,
      hmirrors.label, ih (k + 1)]
    cases s.label <;> rfl

end

/-- The labels of a source in the language stand for the mailboxes of their statements. -/
lemma IsProgram.symbols_eq {source : Source} {program : List Statement}
    (h : IsProgram source.toLines program) : (ofSource source).symbols =
      (program.zipIdx 0).filterMap fun p => p.1.label.map (·, p.2) := by
  have hplaced : placements (layout source.toLines) = program.zipIdx 0 := by
    unfold layout
    rw [placements_layoutFrom]
    exact congrArg (List.zipIdx · 0) h.eq_placed.symm
  have hsymbols := symbolsOf_eq (layout source.toLines)
  rw [hplaced] at hsymbols
  exact hsymbols

/-- The size of a source in the language is the number of its statements. -/
lemma IsProgram.size_eq {source : Source} {program : List Statement}
    (h : IsProgram source.toLines program) : (ofSource source).size = program.length := by
  have herrors : layoutErrors (layout source.toLines) = [] :=
    (layoutErrors_eq_nil_iff _).mpr ⟨program, h.readsAs, h.labels_nodup, h.length_le⟩
  have hfits := any_isOverflowing_of_layoutErrors herrors
  have hcount : placedCount (layout source.toLines) =
      (placedStatements (layout source.toLines)).length := by
    have hplaced : (fun e : Entry => e.placement?.isSome) = Entry.isPlaced := by
      funext e
      cases e <;> rfl
    unfold placedCount placedStatements placements
    rw [List.length_map, List.length_filterMap_eq_countP, hplaced]
  rw [h.eq_placed, ← hcount]
  unfold size
  exact (congrArg (if · = true then 0 else _) hfits).trans (if_neg Bool.false_ne_true)

/-- A source that is read as a program which mirrors that of a source that assembles assembles
too: to the same image and the same size, and the renamed labels stand for the same mailboxes. -/
theorem assemble_of_mirrors {f : Text → Text} {source source' : Source} {image : List Int}
    {program program' : List Statement} (hprogram : IsProgram source.toLines program)
    (himage : IsImage program image)
    (hinjective : ∀ name ∈ labels program, ∀ name' ∈ labels program,
      f name = f name' → name = name')
    (hreads : ReadsAs source'.toLines program')
    (hmirrors : List.Forall₂ (Mirrors f) program program') :
    assemble source' = .ok image ∧ (ofSource source').size = (ofSource source).size ∧
      (ofSource source').symbols = (ofSource source).symbols.map (Prod.map f id) := by
  have hnames := hprogram.resolves.isWellFormedName
  have hprogram' : IsProgram source'.toLines program' := {
    readsAs := hreads
    labels_nodup := by
      rw [labels_of_mirrors hmirrors]
      exact hprogram.labels_nodup.map_on hinjective
    length_le := hmirrors.length_eq ▸ hprogram.length_le
    encodes := by
      intro s' hs'
      obtain ⟨k, hk⟩ := List.getElem?_of_mem hs'
      obtain ⟨s, hs, hsame⟩ := exists_getElem?_of_forall₂ hmirrors.flip hk
      obtain ⟨word, hword⟩ := hprogram.encodes s (List.mem_of_getElem? hs)
      exact ⟨word, hword.mirror hmirrors hnames hsame⟩ }
  obtain ⟨image', hassemble, himage'⟩ := hprogram'.exists_assemble_eq_ok
  obtain rfl := hprogram'.resolves.isImage_unique himage' (himage.mirror hmirrors hnames)
  refine ⟨hassemble, ?_, ?_⟩
  · rw [hprogram'.size_eq, hprogram.size_eq, hmirrors.length_eq]
  · rw [hprogram'.symbols_eq, hprogram.symbols_eq, filterMap_zipIdx_of_mirrors hmirrors]

end Assembly

end LittleMan
