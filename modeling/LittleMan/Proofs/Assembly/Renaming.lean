import LittleMan.Proofs.Assembly.Respelling

/-!
# Renaming labels

A source can be given other labels (`renameLine`): in every line the label and an operand that is a
name are replaced, and nothing else. A line with the label of its statement renamed to a name that
is no mnemonic is classified like before, since a label field is none either
(`respells_rename`). An operand that is a name is the label of some statement, or the
source would not assemble (`Encodes.mem_labels`). So the renamed source mirrors the old one if the
new labels are as different as the old ones were (`assemble_renamed`).
-/

namespace LittleMan

namespace Assembly

/-- A label field with its name renamed; a colon behind the name stays. -/
def renameField (f : Text → Text) (field : Text) : Text :=
  if field.getLast? = some ':' then f field.dropLast ++ [':'] else f field

/-- An operand with its name renamed, if it is a name. -/
def renameOperand (f : Text → Text) (operand : Text) : Text :=
  if isName operand then f operand else operand

/-- A written statement with its label and its operand renamed. -/
def Statement.rename (f : Text → Text) (w : Statement) : Statement :=
  ⟨w.label.map (renameField f), w.mnemonic, w.operand.map (renameOperand f)⟩

/-- A line with its label and its operand renamed, if it has a statement. -/
def renameLine (f : Text → Text) (line : Text) : Text :=
  match arrange (lineFields line) with
  | .ok (some w) => withFields (w.rename f).written line
  | _ => line

section

variable {f : Text → Text} {line field name : Text} {s w : Statement} {program : List Statement}

/-- A field defines one label only. -/
lemma DefinesLabel.unique {name' : Text} (h : DefinesLabel field name)
    (h' : DefinesLabel field name') : name = name' := by
  rw [← checkLabel_eq_ok_iff] at h h'
  exact Except.ok.inj (h.symm.trans h')

/-- A renamed field defines the renamed label. -/
lemma DefinesLabel.rename (h : DefinesLabel field name) (hname : IsWellFormedName (f name))
    (hfree : ¬ IsKnown (Text.upper (f name))) : DefinesLabel (renameField f field) (f name) := by
  refine ⟨?_, hname, hfree⟩
  obtain ⟨rfl | rfl, hold, -⟩ := h
  · exact .inl (if_neg hold.getLast?_ne_colon)
  · refine .inr ?_
    unfold renameField
    rw [if_pos List.getLast?_concat, List.dropLast_concat]

/-- An operand of a statement that has a word is a literal or a label of the program. -/
lemma Encodes.mem_labels {word : Int} (h : Encodes program s word) {operand : Text}
    (hoperand : s.operand = some operand) : IsLiteral operand ∨ operand ∈ labels program := by
  have hdenotes : ∃ limit value, Denotes program limit operand value := by
    cases h with
    | addressed label m operand' base address known denotes =>
      obtain rfl := Option.some.inj hoperand
      exact ⟨_, _, denotes⟩
    | data label operand' value denotes =>
      obtain rfl := Option.some.inj hoperand
      exact ⟨_, _, denotes⟩
    | fixed | blank => cases hoperand
  obtain ⟨limit, value, hvalue⟩ := hdenotes
  cases hvalue with
  | literal digits le => exact .inl digits
  | label k s at_k defined =>
    exact .inr (List.mem_filterMap.mpr ⟨s, List.mem_of_getElem? at_k, defined⟩)

/-- The names that take the place of the labels of the program may be labels. -/
def IsRenaming (f : Text → Text) (program : List Statement) : Prop :=
  ∀ name ∈ labels program, IsWellFormedName (f name) ∧ ¬ IsKnown (Text.upper (f name))

/-- An operand of the program is the same one after it has been renamed, and a field. -/
lemma sameOperand_rename (hrenaming : IsRenaming f program)
    (hnames : ∀ name ∈ labels program, IsWellFormedName name) {operand : Text}
    (hfield : IsLineField operand) (h : IsLiteral operand ∨ operand ∈ labels program) :
    SameOperand f operand (renameOperand f operand) ∧ IsLineField (renameOperand f operand) := by
  unfold renameOperand
  split
  · next hname =>
    have hother : ¬ IsLiteral operand := ((isName_iff operand).mp hname).not_isLiteral
    have hnew := (hrenaming operand (h.resolve_left hother)).1
    exact ⟨.renamed hother, hnew.isLineField⟩
  · next hname =>
    have hliteral : IsLiteral operand :=
      h.resolve_right fun hmem => hname ((isName_iff operand).mpr (hnames operand hmem))
    exact ⟨.literal operand hliteral hliteral id rfl, hfield⟩

/-- A statement of the program that is written with the labels renamed is another way to write it,
and its fields can be fields of a line. -/
lemma respells_rename (hrenaming : IsRenaming f program)
    (hnames : ∀ name ∈ labels program, IsWellFormedName name) {word : Int} (hs : s ∈ program)
    (hencodes : Encodes program s word) (hcheck : w.check = .ok s)
    (hfields : ∀ t ∈ w.written, IsLineField t) :
    Respells f w (w.rename f) ∧ ∀ t ∈ (w.rename f).written, IsLineField t := by
  obtain ⟨hlabel, hoperand⟩ := label_of_check hcheck
  obtain ⟨-, hmnemonic, hold⟩ := forall_mem_written.mp hfields
  have hlabel' : ∀ field, w.label = some field → ∃ name, DefinesLabel field name ∧
      DefinesLabel (renameField f field) (f name) := by
    intro field hfield
    rw [hfield] at hlabel
    generalize hname : s.label = label at hlabel
    cases hlabel with
    | @some _ name hdefines =>
      obtain ⟨hwell, hfree⟩ := hrenaming name (List.mem_filterMap.mpr ⟨s, hs, hname⟩)
      exact ⟨name, hdefines, hdefines.rename hwell hfree⟩
  have hoperand' : ∀ operand, w.operand = some operand →
      SameOperand f operand (renameOperand f operand) ∧
        IsLineField (renameOperand f operand) := by
    intro operand hmem
    have hmeaning := hencodes.mem_labels (hoperand.trans hmem)
    exact sameOperand_rename hrenaming hnames (hold operand hmem) hmeaning
  constructor
  · refine ⟨?_, rfl, ?_⟩
    · change Option.Rel _ w.label (w.label.map (renameField f))
      cases hw : w.label with
      | none => exact .none
      | some field =>
        obtain ⟨name, hdefines, hdefines'⟩ := hlabel' field hw
        exact .some fun name' h' => hdefines.unique h' ▸ hdefines'
    · change Option.Rel _ w.operand (w.operand.map (renameOperand f))
      cases hw : w.operand with
      | none => exact .none
      | some operand => exact .some (hoperand' operand hw).1
  · refine forall_mem_written.mpr ⟨fun t ht => ?_, hmnemonic, fun t ht => ?_⟩
    · obtain ⟨field, hfield, rfl⟩ := Option.map_eq_some_iff.mp ht
      obtain ⟨name, -, hdefines'⟩ := hlabel' field hfield
      exact hdefines'.isLineField
    · obtain ⟨operand, hmem, rfl⟩ := Option.map_eq_some_iff.mp ht
      exact (hoperand' operand hmem).2

/-- A line of the program with its labels renamed is read as a statement that mirrors its own. -/
theorem reads_renameLine (hrenaming : IsRenaming f program)
    (hnames : ∀ name ∈ labels program, IsWellFormedName name) {word : Int} (hs : s ∈ program)
    (hencodes : Encodes program s word) (h : Reads (lineFields line) s) :
    ∃ s', Reads (lineFields (renameLine f line)) s' ∧ Mirrors f s s' := by
  obtain ⟨w, hw, hcheck⟩ := (reads_iff_arrange _ s).mp h
  have hold := isLineField_of_arrange hw
  obtain ⟨hrespells, hfields⟩ := respells_rename hrenaming hnames hs hencodes hcheck hold
  have hline : renameLine f line = withFields (w.rename f).written line := by
    unfold renameLine
    rw [hw]
  rw [hline]
  exact h.respell_line hw hrespells hfields

/-- A line whose names are given back to it is what it was. -/
theorem renameLine_id (line : Text) : renameLine id line = line := by
  unfold renameLine
  split
  · next w hw =>
    have hfield : ∀ field, renameField id field = field := by
      intro field
      unfold renameField
      split
      · next hlast => exact List.dropLast_append_getLast? ':' hlast
      · rfl
    have hoperand : ∀ operand, renameOperand id operand = operand := fun operand => ite_self operand
    have hsame : w.rename id = w := by
      obtain ⟨label, m, operand⟩ := w
      cases label <;> cases operand <;> simp [Statement.rename, hfield, hoperand]
    rw [hsame, written_of_arrange hw, withFields_lineFields]
  · rfl

/-- A line without fields stays as it is. -/
lemma renameLine_of_blank (h : lineFields line = []) : renameLine f line = line := by
  unfold renameLine
  rw [h]
  rfl

end

/-- Consistent renaming of labels does not change a program. If a source assembles, and a function
gives different names to different labels, names that are no mnemonics in any case, then the source
with every label and every label operand renamed assembles too: to the same image and the same size,
and the renamed labels stand for the same mailboxes in the same order. -/
theorem assemble_renamed {source : Source} {image : List Int} (f : Text → Text)
    (h : assemble source = .ok image)
    (hinjective : ∀ name ∈ (ofSource source).symbols.map Prod.fst,
      ∀ name' ∈ (ofSource source).symbols.map Prod.fst, f name = f name' → name = name')
    (hnames : ∀ name ∈ (ofSource source).symbols.map Prod.fst,
      IsWellFormedName (f name) ∧ ¬ IsKnown (Text.upper (f name))) :
    assemble (.lines (source.toLines.map (renameLine f))) = .ok image ∧
      (ofSource (.lines (source.toLines.map (renameLine f)))).size = (ofSource source).size ∧
      (ofSource (.lines (source.toLines.map (renameLine f)))).symbols =
        (ofSource source).symbols.map (Prod.map f id) := by
  obtain ⟨program, hprogram, himage⟩ := exists_isProgram_of_assemble h
  have hlabels : (ofSource source).symbols.map Prod.fst = labels program := by
    rw [hprogram.eq_placed]
    exact map_fst_symbolsOf _
  rw [hlabels] at hinjective hnames
  have hwell : ∀ name ∈ labels program, IsWellFormedName name := by
    intro name hname
    obtain ⟨s, hs, hlabel⟩ := List.mem_filterMap.mp hname
    exact hprogram.resolves.isWellFormedName s hs name hlabel
  have hlines : List.Forall₂ (fun line line' => (lineFields line = [] → lineFields line' = []) ∧
      ∀ s ∈ program, Reads (lineFields line) s → ∃ s', Reads (lineFields line') s' ∧ Mirrors f s s')
      source.toLines (source.toLines.map (renameLine f)) := by
    refine List.forall₂_map_right_iff.mpr (List.forall₂_same.mpr fun line _ => ⟨?_, ?_⟩)
    · intro hblank
      rw [renameLine_of_blank hblank]
      exact hblank
    · intro s hs hreads
      obtain ⟨word, hencodes⟩ := hprogram.encodes s hs
      exact reads_renameLine hnames hwell hs hencodes hreads
  obtain ⟨program', hreads, hmirrors⟩ := hprogram.readsAs.exists_forall₂ hlines
  exact assemble_of_mirrors hprogram himage hinjective hreads hmirrors

/-- A source with three labels that counts down. -/
def countdown : List Text :=
  ["loop: LDA x  # the counter", "", "\tSUB one", "\tSTO x", "\tBRP loop", "\tHLT", "x DAT 5",
    "one: dat 1"]

/-- The same with the first two labels in the place of each other. -/
def exchangedCountdown : List Text :=
  ["x: LDA loop  # the counter", "", "\tSUB one", "\tSTO loop", "\tBRP x", "\tHLT", "loop DAT 5",
    "one: dat 1"]

/-- The function that exchanges these two labels. -/
def exchange (name : Text) : Text :=
  if name = "loop" then "x" else if name = "x" then "loop" else name

/-- Two labels of a source may be exchanged. -/
theorem assemble_renamed_countdown :
    assemble (.lines exchangedCountdown) = .ok (padded [505, 206, 305, 800, 0, 5, 1]) ∧
      (ofSource (.lines exchangedCountdown)).symbols =
        (ofSource (.lines countdown)).symbols.map (Prod.map exchange id) := by
  have hsymbols : (ofSource (.lines countdown)).symbols.map Prod.fst = ["loop", "x", "one"] := by
    decide +kernel
  have hrenamed : countdown.map (renameLine exchange) = exchangedCountdown := by
    decide +kernel
  have himage : assemble (.lines countdown) = .ok (padded [505, 206, 305, 800, 0, 5, 1]) := by
    decide +kernel
  have hgood : ∀ name ∈ (ofSource (.lines countdown)).symbols.map Prod.fst,
      isName (exchange name) = true ∧ isMnemonic (exchange name) = false := by
    rw [hsymbols]
    decide +kernel
  have hinjective : ∀ name ∈ (ofSource (.lines countdown)).symbols.map Prod.fst,
      ∀ name' ∈ (ofSource (.lines countdown)).symbols.map Prod.fst,
        exchange name = exchange name' → name = name' := by
    rw [hsymbols]
    decide +kernel
  obtain ⟨hassemble, -, hmailboxes⟩ := assemble_renamed exchange himage hinjective fun name hname =>
    ⟨(isName_iff _).mp (hgood name hname).1, fun hknown =>
      Bool.false_ne_true ((hgood name hname).2.symm.trans ((isMnemonic_iff _).mpr hknown))⟩
  rw [← hrenamed]
  exact ⟨hassemble, hmailboxes⟩

end Assembly

end LittleMan
