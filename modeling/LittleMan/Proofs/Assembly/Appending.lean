import LittleMan.Proofs.Assembly.Diagnosis
import LittleMan.Proofs.Assembly.Respelling

/-!
# Appending to a source

Lines that are put behind a source leave alone what stands in front of them. The program of the
whole is the program of the front with more statements behind it (`ReadsAs.exists_append`), and what
an operand denotes and a statement encodes to is not changed by statements behind the program
(`Denotes.append`, `Encodes.append`). So the front keeps its words, its labels and its mailboxes.

Taking lines away at the end is another matter, since an operand may name a label that is defined
behind it. What still encodes are the statements whose operands need no label of the lines that are
taken away (`Encodes.exists_of_append`).

Both directions are put together in `assemble_append`.
-/

namespace LittleMan

namespace Assembly

/-- The line has an operand, and this is it. -/
def HasOperand (raw operand : Text) : Prop :=
  ∃ s, Reads (lineFields raw) s ∧ s.operand = some operand

/-- No operand of the lines in front names a label that is defined only behind them. -/
def StandsAlone (front back : List Text) : Prop :=
  ∀ raw ∈ front, ∀ name, HasOperand raw name →
    (∃ raw' ∈ back, Carries raw' name) → ∃ raw' ∈ front, Carries raw' name

/-! ### Reading -/

section

variable {front back : List Text} {program p q : List Statement}

/-- The lines in front and the lines behind are read by themselves. -/
lemma ReadsAs.exists_append (h : ReadsAs (front ++ back) program) :
    ∃ p q, ReadsAs front p ∧ ReadsAs back q ∧ program = p ++ q := by
  unfold ReadsAs codeLines at h
  rw [List.filter_append] at h
  have hfront := (List.forall₂_take_append program _ _ h.flip).flip
  have hback := (List.forall₂_drop_append program _ _ h.flip).flip
  exact ⟨_, _, hfront, hback, (List.take_append_drop _ program).symm⟩

/-- A statement of a source is read from one of its lines. -/
lemma ReadsAs.exists_line (h : ReadsAs front program) {s : Statement} (hs : s ∈ program) :
    ∃ raw ∈ front, Reads (lineFields raw) s := by
  obtain ⟨k, hk⟩ := List.getElem?_of_mem hs
  obtain ⟨raw, hraw, hreads⟩ := exists_getElem?_of_forall₂ h.flip hk
  exact ⟨raw, (List.mem_filter.mp (List.mem_of_getElem? hraw)).1, hreads⟩

/-- A line with fields is read as a statement of the source. -/
lemma ReadsAs.mem_of_line (h : ReadsAs front program) {raw : Text} (hraw : raw ∈ front)
    {s : Statement} (hs : Reads (lineFields raw) s) : s ∈ program := by
  have hcode : raw ∈ codeLines front := List.mem_filter.mpr ⟨hraw, by simpa using hs.ne_nil⟩
  obtain ⟨k, hk⟩ := List.getElem?_of_mem hcode
  obtain ⟨s', hs', hreads⟩ := exists_getElem?_of_forall₂ h hk
  rw [hs.unique hreads]
  exact List.mem_of_getElem? hs'

/-- The labels of a source are those that its lines carry. -/
lemma ReadsAs.mem_labels_iff (h : ReadsAs front program) (name : Text) :
    name ∈ labels program ↔ ∃ raw ∈ front, Carries raw name := by
  unfold labels
  rw [List.mem_filterMap]
  constructor
  · rintro ⟨s, hs, hlabel⟩
    obtain ⟨raw, hraw, hreads⟩ := h.exists_line hs
    exact ⟨raw, hraw, s, hreads, hlabel⟩
  · rintro ⟨raw, hraw, s, hreads, hlabel⟩
    exact ⟨s, h.mem_of_line hraw hreads, hlabel⟩

/-- The lines in front stand alone if no operand of their statements is a label of the statements
behind only. -/
lemma standsAlone_iff (hfront : ReadsAs front p) (hback : ReadsAs back q) :
    StandsAlone front back ↔
      ∀ s ∈ p, ∀ operand ∈ s.operand, operand ∈ labels q → operand ∈ labels p := by
  simp only [hfront.mem_labels_iff, hback.mem_labels_iff]
  constructor
  · intro h s hs operand hoperand
    obtain ⟨raw, hraw, hreads⟩ := hfront.exists_line hs
    exact h raw hraw operand ⟨s, hreads, hoperand⟩
  · rintro h raw hraw name ⟨s, hreads, hoperand⟩
    exact h s (hfront.mem_of_line hraw hreads) name hoperand

/-! ### Statements behind a program -/

section

variable {limit value : Nat} {operand : Text} {s : Statement} {word : Int}

/-- An operand denotes what it did before. -/
lemma Denotes.append (h : Denotes p limit operand value) (q : List Statement) :
    Denotes (p ++ q) limit operand value := by
  cases h with
  | literal digits short le => exact .literal digits short le
  | label k s at_k defined =>
    have hvalue : value < p.length := (List.getElem?_eq_some_iff.mp at_k).1
    exact .label value s (by rw [List.getElem?_append_left hvalue, at_k]) defined

/-- A statement encodes to the word that it did before. -/
lemma Encodes.append (h : Encodes p s word) (q : List Statement) : Encodes (p ++ q) s word := by
  cases h with
  | addressed label m operand base address known denotes =>
    exact .addressed label m operand base address known (denotes.append q)
  | fixed label m word known => exact .fixed label m word known
  | blank label => exact .blank label
  | data label operand value denotes => exact .data label operand value (denotes.append q)

/-- An operand that needs no label of the statements behind denotes something without them. -/
lemma Denotes.exists_of_append (h : Denotes (p ++ q) limit operand value)
    (hneeds : operand ∈ labels q → operand ∈ labels p) :
    ∃ value, Denotes p limit operand value := by
  cases h with
  | literal digits short le => exact ⟨_, .literal digits short le⟩
  | label k s at_k defined =>
    have hmem : operand ∈ labels p := by
      rcases List.mem_append.mp (List.mem_of_getElem? at_k) with hs | hs
      · exact List.mem_filterMap.mpr ⟨s, hs, defined⟩
      · exact hneeds (List.mem_filterMap.mpr ⟨s, hs, defined⟩)
    obtain ⟨s', hs', hlabel⟩ := List.mem_filterMap.mp hmem
    obtain ⟨k', hk'⟩ := List.getElem?_of_mem hs'
    exact ⟨k', .label k' s' hk' hlabel⟩

/-- A statement whose operand needs none encodes to something without them. -/
lemma Encodes.exists_of_append (h : Encodes (p ++ q) s word)
    (hneeds : ∀ operand ∈ s.operand, operand ∈ labels q → operand ∈ labels p) :
    ∃ word, Encodes p s word := by
  cases h with
  | addressed label m operand base address known denotes =>
    obtain ⟨address', denotes'⟩ := denotes.exists_of_append (hneeds operand rfl)
    exact ⟨_, .addressed label m operand base address' known denotes'⟩
  | fixed label m word known => exact ⟨word, .fixed label m word known⟩
  | blank label => exact ⟨0, .blank label⟩
  | data label operand value denotes =>
    obtain ⟨value', denotes'⟩ := denotes.exists_of_append (hneeds operand rfl)
    exact ⟨_, .data label operand value' denotes'⟩

end

/-- The labels of a program with statements behind it. -/
lemma labels_append (p q : List Statement) : labels (p ++ q) = labels p ++ labels q :=
  List.filterMap_append

/-- Words of the front stand in the image of the whole, too. -/
lemma IsImage.getElem?_append {symbols : Symbols} {image whole : List Int}
    (hresolves : Resolves symbols (p ++ q)) (himage : IsImage p image)
    (hwhole : IsImage (p ++ q) whole) {k : Nat} (hk : k < p.length) : whole[k]? = image[k]? := by
  have hs : p[k]? = some p[k] := List.getElem?_eq_getElem hk
  have hs' : (p ++ q)[k]? = some p[k] := by rw [List.getElem?_append_left hk, hs]
  obtain ⟨word, hword, hget⟩ := himage.encodes k p[k] hs
  obtain ⟨word', hword', hget'⟩ := hwhole.encodes k p[k] hs'
  rw [hget, hget', hresolves.encodes_unique (hword.append q) hword']

/-- A source in the language is in it without the lines at its end if the front stands alone. -/
lemma IsProgram.of_append (h : IsProgram (front ++ back) (p ++ q)) (hfront : ReadsAs front p)
    (hback : ReadsAs back q) (halone : StandsAlone front back) : IsProgram front p where
  readsAs := hfront
  labels_nodup := by
    have hnodup := h.labels_nodup
    rw [labels_append] at hnodup
    exact (List.nodup_append.mp hnodup).1
  length_le := by
    have hlength := h.length_le
    rw [List.length_append] at hlength
    omega
  encodes s hs := by
    obtain ⟨word, hencodes⟩ := h.encodes s (List.mem_append_left q hs)
    exact hencodes.exists_of_append ((standsAlone_iff hfront hback).mp halone s hs)

end

/-! ### Sources -/

/-- Appending source never disturbs what precedes it. If lines assemble and so do they with more
lines behind them, then the words, the labels and the mailboxes of the labels stay, and the size
grows by the number of statements behind. And if lines assemble with others behind them, they
assemble without, unless an operand of theirs names a label that is defined only behind. -/
theorem assemble_append (front back : List Text) :
    (∀ image whole, assemble (.lines front) = .ok image →
      assemble (.lines (front ++ back)) = .ok whole →
        (∀ k < (ofSource (.lines front)).size, whole[k]? = image[k]?) ∧
        (ofSource (.lines front)).symbols <+: (ofSource (.lines (front ++ back))).symbols ∧
        (ofSource (.lines (front ++ back))).size =
          (ofSource (.lines front)).size + (codeLines back).length) ∧
    ∀ whole, assemble (.lines (front ++ back)) = .ok whole → StandsAlone front back →
      ∃ image, assemble (.lines front) = .ok image := by
  refine ⟨fun image whole hassemble hassemble' => ?_, fun whole hassemble halone => ?_⟩
  · obtain ⟨p, hprogram, himage⟩ := exists_isProgram_of_assemble hassemble
    obtain ⟨program, hprogram', hwhole⟩ := exists_isProgram_of_assemble hassemble'
    obtain ⟨p', q, hfront, hback, rfl⟩ := hprogram'.readsAs.exists_append
    obtain rfl : p = p' := hprogram.readsAs.unique hfront
    rw [hprogram.size_eq, hprogram'.size_eq, hprogram.symbols_eq, hprogram'.symbols_eq]
    refine ⟨fun k hk => himage.getElem?_append hprogram'.resolves hwhole hk, ?_, ?_⟩
    · rw [List.zipIdx_append, List.filterMap_append]
      exact List.prefix_append _ _
    · rw [List.length_append, hback.length_eq]
  · obtain ⟨program, hprogram, -⟩ := exists_isProgram_of_assemble hassemble
    obtain ⟨p, q, hfront, hback, rfl⟩ := hprogram.readsAs.exists_append
    have hprogram' : IsProgram (Source.lines front).toLines p :=
      hprogram.of_append hfront hback halone
    obtain ⟨image, himage, -⟩ := hprogram'.exists_assemble_eq_ok
    exact ⟨image, himage⟩

/-- A source that shows a word over and over. -/
def showing : List Text :=
  ["start: LDA word", "OUT  # the word", "BR start", "word DAT 7"]

/-- Lines that can stand behind it: they use its labels and have one of their own. -/
def shown : List Text :=
  ["", "more: ADD word", "BRP more"]

/-- A source keeps its words when others are put behind it, and it assembles without them. -/
theorem assemble_append_showing :
    assemble (.lines showing) = .ok (padded [503, 902, 600, 7]) ∧
      assemble (.lines (showing ++ shown)) = .ok (padded [503, 902, 600, 7, 103, 804]) ∧
      (ofSource (.lines showing)).symbols <+: (ofSource (.lines (showing ++ shown))).symbols ∧
      (ofSource (.lines (showing ++ shown))).size = (ofSource (.lines showing)).size + 2 ∧
      ∃ image, assemble (.lines showing) = .ok image := by
  have hshowing : assemble (.lines showing) = .ok (padded [503, 902, 600, 7]) := by
    decide +kernel
  have hboth : assemble (.lines (showing ++ shown)) =
      .ok (padded [503, 902, 600, 7, 103, 804]) := by
    decide +kernel
  have hcode : (codeLines shown).length = 2 := by decide +kernel
  have halone : StandsAlone showing shown := by
    have hfront := readsAs_placed 1 0 [] showing (by decide +kernel)
    have hback := readsAs_placed 1 0 [] shown (by decide +kernel)
    refine (standsAlone_iff hfront hback).mpr ?_
    decide +kernel
  obtain ⟨happend, hremove⟩ := assemble_append showing shown
  obtain ⟨-, hsymbols, hsize⟩ := happend _ _ hshowing hboth
  rw [hcode] at hsize
  exact ⟨hshowing, hboth, hsymbols, hsize, hremove _ hboth halone⟩

end Assembly

end LittleMan
