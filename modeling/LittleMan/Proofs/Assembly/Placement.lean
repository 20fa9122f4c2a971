import LittleMan.Proofs.Assembly.Words

/-!
# Placements

What the first pass places, and where. Whatever else it finds, the placed statements stand in
consecutive mailboxes from the first free one on (`placements_layoutFrom`), they never run out of
the mailboxes (`length_placed_le`), and no two of them have the same label
(`labels_placed_fresh`). So the table of labels that the second pass uses belongs to
the placed statements (`resolves_symbolsOf`).

A pass without an error has placed the whole program (`readsAs_placed`), and it has no error
exactly when the source reads as a program with labels of its own that fits into the mailboxes
(`layoutErrors_eq_nil_iff`). All of these are inductions over the lines, with the next
free mailbox and the labels so far generalised.
-/

namespace LittleMan

namespace Assembly

/-- The statement of an entry that is placed, and its mailbox. -/
def Entry.placement? : Entry → Option (Statement × Nat)
  | placed _ s address => some (s, address)
  | _ => none

/-- The placed statements of a layout, each with its mailbox. -/
def placements (entries : List Entry) : List (Statement × Nat) :=
  entries.filterMap Entry.placement?

/-- The placed statements of a layout. -/
def placedStatements (entries : List Entry) : List Statement :=
  (placements entries).map Prod.fst

/-- A placed statement comes before those of the lines behind it. -/
lemma placedStatements_cons_placed (line : SourceLine) (s : Statement) (address : Nat)
    (entries : List Entry) :
    placedStatements (.placed line s address :: entries) = s :: placedStatements entries := rfl

/-! ### Reading the lines of a source -/

/-- The line breaks at the end of a line do not change its fields. -/
lemma lineFields_dropBreaks (raw : Text) : lineFields (Text.dropBreaks raw) = lineFields raw :=
  Text.fields_before_dropBreaks raw

/-- A line without fields adds nothing to a program. -/
lemma readsAs_cons_of_blank {raw : Text} (h : lineFields raw = []) (rest : List Text)
    (program : List Statement) : ReadsAs (raw :: rest) program ↔ ReadsAs rest program := by
  unfold ReadsAs codeLines
  rw [List.filter_cons_of_neg (by simp [h])]

/-- A line with fields opens the program with its statement. -/
lemma readsAs_cons_of_code {raw : Text} (h : lineFields raw ≠ []) (rest : List Text)
    (program : List Statement) : ReadsAs (raw :: rest) program ↔
      ∃ s p, Reads (lineFields raw) s ∧ ReadsAs rest p ∧ program = s :: p := by
  unfold ReadsAs codeLines
  rw [List.filter_cons_of_pos (by simp [h]), List.forall₂_cons_left_iff]

/-- A line with fields is read as its statement. -/
lemma Reads.ne_nil {fields : List Text} {s : Statement} (h : Reads fields s) : fields ≠ [] := by
  cases h <;> exact List.cons_ne_nil _ _

/-- A source reads as at most one program. -/
lemma ReadsAs.unique {source : List Text} {program program' : List Statement}
    (h : ReadsAs source program) (h' : ReadsAs source program') : program = program' :=
  List.right_unique_forall₂' (fun _ _ _ hs hs' => hs.unique hs') h h'

section

variable {number : Int} {raw : Text}

/-- A line that could be read has the statement of its text. -/
lemma statement?_of_parse {line : SourceLine} (h : SourceLine.parse number raw = .ok line) :
    statement? raw = .ok line.statement := by
  unfold SourceLine.parse at h
  split at h
  · cases h
  · next statement hstatement =>
    obtain rfl := Except.ok.inj h
    exact hstatement

/-- A line that could be read and has no statement has no fields. -/
lemma lineFields_eq_nil_of_parse {line : SourceLine}
    (h : SourceLine.parse number (Text.dropBreaks raw) = .ok line) (hs : line.statement = none) :
    lineFields raw = [] := by
  rw [← lineFields_dropBreaks, ← statement?_eq_ok_none_iff, statement?_of_parse h, hs]

/-- The fields of a line that could be read are those of its statement. -/
lemma reads_of_parse {line : SourceLine} {s : Statement}
    (h : SourceLine.parse number (Text.dropBreaks raw) = .ok line) (hs : line.statement = some s) :
    Reads (lineFields raw) s := by
  rw [← lineFields_dropBreaks, ← statement?_eq_ok_some_iff, statement?_of_parse h, hs]

/-- A line that could not be read has fields, and they read as no statement. -/
lemma not_reads_of_parse {e : Error}
    (h : SourceLine.parse number (Text.dropBreaks raw) = .error e) :
    lineFields raw ≠ [] ∧ ∀ s, ¬ Reads (lineFields raw) s := by
  have hnot : ∀ r, statement? (Text.dropBreaks raw) ≠ .ok r := by
    intro r hr
    unfold SourceLine.parse at h
    rw [hr] at h
    cases h
  rw [← lineFields_dropBreaks]
  exact ⟨fun hnil => hnot none ((statement?_eq_ok_none_iff _).mpr hnil),
    fun s hs => hnot (some s) ((statement?_eq_ok_some_iff _ s).mpr hs)⟩

end

/-! ### Consecutive mailboxes -/

/-- The placed statements stand in consecutive mailboxes. -/
theorem placements_layoutFrom (number : Int) (free : Nat) (symbols : Symbols)
    (source : List Text) :
    placements (layoutFrom number free symbols source) =
      (placedStatements (layoutFrom number free symbols source)).zipIdx free := by
  fun_induction layoutFrom number free symbols source with
  | case1 => rfl
  | case2 number free symbols raw rest e hparse ih => exact ih
  | case3 number free symbols raw rest line hparse hs ih => exact ih
  | case4 => rfl
  | case5 number free symbols raw rest line hparse s hs hfree name address hclash ih => exact ih
  | case6 number free symbols raw rest line hparse s hs hfree hclash ih =>
    exact congrArg ((s, free) :: ·) ih

/-- The placed statements do not run out of the mailboxes. -/
lemma length_placed_le (number : Int) {free : Nat} (symbols : Symbols) (source : List Text)
    (hfree : free ≤ mailboxCount) :
    free + (placedStatements (layoutFrom number free symbols source)).length ≤ mailboxCount := by
  fun_induction layoutFrom number free symbols source with
  | case1 => exact hfree
  | case2 number free symbols raw rest e hparse ih => exact ih hfree
  | case3 number free symbols raw rest line hparse hs ih => exact ih hfree
  | case4 => exact hfree
  | case5 number free symbols raw rest line hparse s hs hlt name address hclash ih =>
    exact ih hfree
  | case6 number free symbols raw rest line hparse s hs hlt hclash ih =>
    have hrest := ih (by omega)
    rw [placedStatements_cons_placed, List.length_cons]
    omega

/-! ### Labels -/

/-- A label of a statement is free in a table that does not clash with the statement. -/
lemma clash?_eq_none_iff (s : Statement) (symbols : Symbols) :
    s.clash? symbols = none ↔ ∀ name, s.label = some name → symbols.lookup name = none := by
  unfold Statement.clash?
  cases hlabel : s.label with
  | none => simp
  | some name => cases hlookup : symbols.lookup name <;> simp [hlookup, -List.lookup_eq_none_iff]

/-- A label is free in a table with the label of a statement added if it is free in the table and
not that label. -/
lemma lookup_append_label_eq_none_iff (s : Statement) (symbols : Symbols) (free : Nat)
    (name : Text) : (symbols ++ (s.label.map (·, free)).toList).lookup name = none ↔
      symbols.lookup name = none ∧ s.label ≠ some name := by
  rw [List.lookup_append, Option.or_eq_none_iff]
  cases s.label with
  | none => simp
  | some label =>
    have hsingle : [(label, free)].lookup name = none ↔ name ≠ label := by simp
    have hlabel : some label ≠ some name ↔ name ≠ label :=
      (Option.some_inj.trans eq_comm).not
    rw [Option.map_some, Option.toList_some, hsingle, hlabel]

/-- The labels of a program with one statement more in front. -/
lemma labels_cons (s : Statement) (program : List Statement) :
    labels (s :: program) = s.label.toList ++ labels program := by
  unfold labels
  cases hlabel : s.label <;> simp [hlabel]

/-- The placed statements have labels of their own, which the labels before them do not have. -/
lemma labels_placed_fresh (number : Int) (free : Nat) (symbols : Symbols) (source : List Text) :
    (labels (placedStatements (layoutFrom number free symbols source))).Nodup ∧
      ∀ name ∈ labels (placedStatements (layoutFrom number free symbols source)),
        symbols.lookup name = none := by
  fun_induction layoutFrom number free symbols source with
  | case1 => exact ⟨List.nodup_nil, fun name hname => absurd hname List.not_mem_nil⟩
  | case2 number free symbols raw rest e hparse ih => exact ih
  | case3 number free symbols raw rest line hparse hs ih => exact ih
  | case4 => exact ⟨List.nodup_nil, fun name hname => absurd hname List.not_mem_nil⟩
  | case5 number free symbols raw rest line hparse s hs hlt name address hclash ih => exact ih
  | case6 number free symbols raw rest line hparse s hs hlt hclash ih =>
    obtain ⟨hnodup, hfresh⟩ := ih
    simp only [lookup_append_label_eq_none_iff] at hfresh
    rw [placedStatements_cons_placed, labels_cons]
    refine ⟨List.nodup_append.mpr ⟨s.label.toList_nodup, hnodup, ?_⟩, fun name hname => ?_⟩
    · rintro label hlabel _ hname rfl
      exact (hfresh label hname).2 (Option.mem_toList.mp hlabel)
    · rcases List.mem_append.mp hname with hname | hname
      · exact (clash?_eq_none_iff s symbols).mp hclash name (Option.mem_toList.mp hname)
      · exact (hfresh name hname).1

/-- A placed statement is the one that a line of the source reads as. -/
lemma exists_reads_of_mem_placed (number : Int) (free : Nat) (symbols : Symbols)
    (source : List Text) :
    ∀ s ∈ placedStatements (layoutFrom number free symbols source),
      ∃ raw ∈ source, Reads (lineFields raw) s := by
  fun_induction layoutFrom number free symbols source with
  | case1 => exact fun s hs => absurd hs List.not_mem_nil
  | case2 number free symbols raw rest e hparse ih =>
    exact fun s hs => List.exists_mem_cons_of_exists (ih s hs)
  | case3 number free symbols raw rest line hparse hs ih =>
    exact fun s hs => List.exists_mem_cons_of_exists (ih s hs)
  | case4 => exact fun s hs => absurd hs List.not_mem_nil
  | case5 number free symbols raw rest line hparse s hs hlt name address hclash ih =>
    exact fun s hs => List.exists_mem_cons_of_exists (ih s hs)
  | case6 number free symbols raw rest line hparse s hs hlt hclash ih =>
    intro s' hs'
    rw [placedStatements_cons_placed] at hs'
    rcases List.mem_cons.mp hs' with rfl | hs'
    · exact ⟨raw, List.mem_cons_self, reads_of_parse hparse hs⟩
    · exact List.exists_mem_cons_of_exists (ih s' hs')

/-- The table of labels, read off the placements. -/
lemma symbolsOf_eq (entries : List Entry) :
    symbolsOf entries = (placements entries).filterMap fun p => p.1.label.map (·, p.2) := by
  unfold symbolsOf placements
  rw [List.filterMap_filterMap]
  congr 1
  funext e
  cases e <;> rfl

/-- The table of labels lists the labels of the placed statements. -/
lemma map_fst_symbolsOf (entries : List Entry) :
    (symbolsOf entries).map Prod.fst = labels (placedStatements entries) := by
  rw [symbolsOf_eq]
  unfold labels placedStatements
  rw [List.map_filterMap, List.filterMap_map]
  congr 1
  funext p
  simp [Option.map_map, Function.comp_def]

/-- The table of labels of a layout belongs to its placed statements. -/
theorem resolves_symbolsOf (source : List Text) :
    Resolves (symbolsOf (layout source)) (placedStatements (layout source)) := by
  have hkeys : ((symbolsOf (layout source)).map Prod.fst).Nodup := by
    rw [map_fst_symbolsOf]
    exact (labels_placed_fresh 1 0 [] source).1
  constructor
  · intro name k
    rw [lookup_eq_some_iff_mem hkeys, symbolsOf_eq, List.mem_filterMap]
    unfold layout
    rw [placements_layoutFrom]
    constructor
    · rintro ⟨⟨s, address⟩, hmem, hsymbol⟩
      obtain ⟨name', hlabel, heq⟩ := Option.map_eq_some_iff.mp hsymbol
      obtain ⟨rfl, rfl⟩ := Prod.mk.inj heq
      exact ⟨s, List.mk_mem_zipIdx_iff_getElem?.mp hmem, hlabel⟩
    · rintro ⟨s, hs, hlabel⟩
      exact ⟨(s, k), List.mk_mem_zipIdx_iff_getElem?.mpr hs, by rw [hlabel]; rfl⟩
  · intro s hs name hname
    obtain ⟨raw, -, hreads⟩ := exists_reads_of_mem_placed 1 0 [] source s hs
    exact hreads.isWellFormedName hname

/-! ### Layouts without errors -/

/-- A layout without errors did not run out of the mailboxes. -/
lemma any_isOverflowing_of_layoutErrors {entries : List Entry} (h : layoutErrors entries = []) :
    entries.any Entry.isOverflowing = false := by
  rw [List.any_eq_false]
  intro e he
  have hnone := List.filterMap_eq_nil_iff.mp h e he
  cases e with
  | overflowing line error => cases hnone
  | _ => exact Bool.false_ne_true

/-- A layout without errors has placed all statements of the source. -/
theorem readsAs_placed (number : Int) (free : Nat) (symbols : Symbols) (source : List Text)
    (h : layoutErrors (layoutFrom number free symbols source) = []) :
    ReadsAs source (placedStatements (layoutFrom number free symbols source)) := by
  fun_induction layoutFrom number free symbols source with
  | case1 => exact List.Forall₂.nil
  | case2 number free symbols raw rest e hparse ih => exact absurd h (List.cons_ne_nil _ _)
  | case3 number free symbols raw rest line hparse hs ih =>
    exact (readsAs_cons_of_blank (lineFields_eq_nil_of_parse hparse hs) rest _).mpr (ih h)
  | case4 => exact absurd h (List.cons_ne_nil _ _)
  | case5 number free symbols raw rest line hparse s hs hlt name address hclash ih =>
    exact absurd h (List.cons_ne_nil _ _)
  | case6 number free symbols raw rest line hparse s hs hlt hclash ih =>
    have hreads : Reads (lineFields raw) s := reads_of_parse hparse hs
    exact (readsAs_cons_of_code hreads.ne_nil rest _).mpr ⟨s, _, hreads, ih h, rfl⟩

/-- A source that reads as a program with labels of its own is laid out without errors if the
program fits into the free mailboxes. -/
lemma layoutErrors_eq_nil_of_readsAs (number : Int) (free : Nat) (symbols : Symbols)
    (source : List Text) {program : List Statement} (hreads : ReadsAs source program)
    (hnodup : (labels program).Nodup) (hfresh : ∀ name ∈ labels program, symbols.lookup name = none)
    (hlength : free + program.length ≤ mailboxCount) :
    layoutErrors (layoutFrom number free symbols source) = [] := by
  fun_induction layoutFrom number free symbols source generalizing program with
  | case1 => rfl
  | case2 number free symbols raw rest e hparse ih =>
    obtain ⟨hne, hnot⟩ := not_reads_of_parse hparse
    obtain ⟨s, p, hs, -, -⟩ := (readsAs_cons_of_code hne rest program).mp hreads
    exact absurd hs (hnot s)
  | case3 number free symbols raw rest line hparse hs ih =>
    have hblank := lineFields_eq_nil_of_parse hparse hs
    exact ih ((readsAs_cons_of_blank hblank rest program).mp hreads) hnodup hfresh hlength
  | case4 number free symbols raw rest line hparse s hs hfull =>
    have hne := (reads_of_parse hparse hs).ne_nil
    obtain ⟨s', p, -, -, rfl⟩ := (readsAs_cons_of_code hne rest program).mp hreads
    rw [List.length_cons] at hlength
    omega
  | case5 number free symbols raw rest line hparse s hs hlt name address hclash ih =>
    have hs' := reads_of_parse hparse hs
    obtain ⟨s', p, hs'', -, rfl⟩ := (readsAs_cons_of_code hs'.ne_nil rest program).mp hreads
    obtain rfl := hs'.unique hs''
    rw [labels_cons] at hfresh
    have hnone : s.clash? symbols = none := (clash?_eq_none_iff s symbols).mpr fun n hn =>
      hfresh n (List.mem_append_left _ (Option.mem_toList.mpr hn))
    rw [hnone] at hclash
    cases hclash
  | case6 number free symbols raw rest line hparse s hs hlt hclash ih =>
    have hs' := reads_of_parse hparse hs
    obtain ⟨s', p, hs'', hrest, rfl⟩ := (readsAs_cons_of_code hs'.ne_nil rest program).mp hreads
    obtain rfl := hs'.unique hs''
    rw [labels_cons] at hnodup hfresh
    rw [List.length_cons] at hlength
    refine ih hrest (List.nodup_append.mp hnodup).2.1 (fun name hname => ?_) (by omega)
    refine (lookup_append_label_eq_none_iff s symbols free name).mpr
      ⟨hfresh name (List.mem_append_right _ hname), fun hlabel => ?_⟩
    exact List.disjoint_of_nodup_append hnodup (Option.mem_toList.mpr hlabel) hname

/-- The first pass over a source finds no error exactly when the source reads as a program that
fits into the mailboxes and in which no label is defined twice. -/
theorem layoutErrors_eq_nil_iff (source : List Text) :
    layoutErrors (layout source) = [] ↔
      ∃ program, ReadsAs source program ∧ (labels program).Nodup ∧ program.length ≤ 100 := by
  constructor
  · intro h
    refine ⟨placedStatements (layout source), readsAs_placed 1 0 [] source h,
      (labels_placed_fresh 1 0 [] source).1, ?_⟩
    have hlength := length_placed_le 1 [] source (Nat.zero_le mailboxCount)
    rwa [Nat.zero_add] at hlength
  · rintro ⟨program, hreads, hnodup, hlength⟩
    refine layoutErrors_eq_nil_of_readsAs 1 0 [] source hreads hnodup (fun _ _ => rfl) ?_
    rwa [Nat.zero_add]

end Assembly

end LittleMan
