import LittleMan.Memory
import LittleMan.Proofs.Text.OneLine
import LittleMan.Proofs.Text.Plain
import LittleMan.Proofs.Text.Signed

/-!
# What the grid of a memory shows

The grid is read as it looks: behind the heading every line is a row, and what stands between the
blanks of a row is the number of its first mailbox and then its words (`Memory.rowLabel?`,
`Memory.rowWords`). Read row by row this gives back all mailboxes (`Memory.showsCells_dump`): ten
rows of ten cover a hundred mailboxes, each of them once (`flatMap_range_map`), and a word reads as
itself even if it should not be in range.
-/

namespace LittleMan

/-- Rows of the same width that are read one after the other are read in order. -/
lemma flatMap_range_map {α : Type} (width : Nat) (f : Nat → α) (rows : Nat) :
    (List.range rows).flatMap (fun r => (List.range width).map fun c => f (width * r + c)) =
      (List.range (width * rows)).map f := by
  induction rows with
  | zero => rfl
  | succ rows ih =>
    rw [List.range_succ, List.flatMap_append, ih, List.flatMap_singleton, Nat.mul_succ,
      List.range_add, List.map_append, List.map_map]
    rfl

/-- A list is what is read from it by position. -/
lemma map_range_getD {α : Type} (cells : List α) (default : α) :
    (List.range cells.length).map (cells.getD · default) = cells := by
  refine List.ext_getElem (by simp) fun k hk hk' => ?_
  rw [List.getElem_map, List.getElem_range, List.getD_eq_getElem _ _ hk']

namespace Memory

/-- The rows of a grid, which stand behind its heading. -/
def gridRows (grid : Text) : List Text :=
  (Text.lines grid).tail

/-- The number in front of the words of a row. -/
def rowLabel? (row : Text) : Option Int :=
  (Text.fields row).head?.bind (Text.signed? Text.count?)

/-- What is read of the words of a row. -/
def rowWords (row : Text) : List (Option Int) :=
  (Text.fields row).tail.map (Text.signed? Text.count?)

/-- A grid shows the mailboxes, ten in a row. -/
structure ShowsCells (grid : Text) (cells : List Int) : Prop where
  /-- There are ten rows, each with the number of its first mailbox. -/
  labels : (gridRows grid).map rowLabel? = (List.range 10).map fun r : Nat => some (10 * r : Int)
  width : ∀ row ∈ gridRows grid, (rowWords row).length = 10
  words : (gridRows grid).flatMap rowWords = cells.map some

section

variable (m : Memory)

/-- The fields of a row are the number of its first mailbox and its words. -/
lemma fields_gridRow (row : Nat) : Text.fields (m.gridRow row) =
    Text.zeroPadded 2 (10 * row) ::
      (List.range 10).map fun c => Text.zeroPadded 3 (m.cells.getD (10 * row + c) 0) := by
  have hrow : m.gridRow row = Text.zeroPadded 2 (10 * row) ++ ' ' :: ' ' ::
      List.intercalate [' '] ((List.range 10).map fun c =>
        Text.zeroPadded 3 (m.cells.getD (10 * row + c) 0)) := by
    unfold gridRow
    rw [List.append_assoc]
    rfl
  have hblank : Text.isBlank ' ' = true := by decide
  rw [hrow, Text.fields_field_append (Text.isField_zeroPadded 2 _)
      (Text.endsField_blank_cons hblank _),
    Text.fields_blank_cons hblank, Text.fields_blank_cons hblank, Text.fields_intercalate hblank]
  exact List.forall_mem_map.mpr fun c _ => Text.isField_zeroPadded 3 _

/-- Read as it looks, a row is labelled by its first mailbox. -/
lemma rowLabel?_gridRow (row : Nat) : rowLabel? (m.gridRow row) = some (10 * row : Int) := by
  unfold rowLabel?
  rw [fields_gridRow]
  exact Text.signed?_zeroPadded 2 _

/-- Its words are those of ten mailboxes. -/
lemma rowWords_gridRow (row : Nat) : rowWords (m.gridRow row) =
    (List.range 10).map fun c => some (m.cells.getD (10 * row + c) 0) := by
  unfold rowWords
  rw [fields_gridRow, List.tail_cons, List.map_map]
  exact List.map_congr_left fun c _ => Text.signed?_zeroPadded 3 _

/-- The lines of a grid are its heading and its rows. -/
lemma lines_dump : Text.lines m.dump = gridHeading :: (List.range 10).map m.gridRow := by
  have hrow (row : Nat) : m.gridRow row ≠ [] ∧ Text.IsOneLine (m.gridRow row) := by
    unfold gridRow
    refine ⟨fun hnil => ?_, ?_⟩
    · rw [List.append_eq_nil_iff, List.append_eq_nil_iff] at hnil
      exact (Text.isField_zeroPadded 2 _).ne_nil hnil.1.1
    · refine .append (.append (Text.isOneLine_zeroPadded 2 _) (by decide)) ?_
      refine Text.isOneLine_intercalate (by decide) fun part hpart => ?_
      obtain ⟨c, -, rfl⟩ := List.mem_map.mp hpart
      exact Text.isOneLine_zeroPadded 3 _
  have hheading : Text.IsOneLine gridHeading := by decide
  refine Text.lines_joinRows (List.forall_mem_cons.mpr ⟨List.cons_ne_nil _ _, ?_⟩)
    (List.forall_mem_cons.mpr ⟨hheading, ?_⟩)
  · exact List.forall_mem_map.mpr fun row _ => (hrow row).1
  · exact List.forall_mem_map.mpr fun row _ => (hrow row).2

end

/-- The grid of a memory shows its mailboxes. -/
theorem showsCells_dump {m : Memory} (h : m.snapshot.length = mailboxCount) :
    ShowsCells m.dump m.snapshot := by
  have hrows : gridRows m.dump = (List.range 10).map m.gridRow := by
    unfold gridRows
    rw [lines_dump, List.tail_cons]
  constructor
  · rw [hrows, List.map_map]
    exact List.map_congr_left fun row _ => m.rowLabel?_gridRow row
  · rw [hrows]
    refine List.forall_mem_map.mpr fun row _ => ?_
    rw [rowWords_gridRow, List.length_map, List.length_range]
  · have hwords : rowWords ∘ m.gridRow = fun row =>
        (List.range 10).map fun c => some (m.cells.getD (10 * row + c) 0) :=
      funext m.rowWords_gridRow
    have hlength : m.cells.length = 10 * 10 := h
    calc (gridRows m.dump).flatMap rowWords
        = (List.range 10).flatMap (rowWords ∘ m.gridRow) := by
          rw [hrows, List.flatMap_map]
          rfl
      _ = (List.range (10 * 10)).map fun k => some (m.cells.getD k 0) := by
          rw [hwords, flatMap_range_map 10 fun k => some (m.cells.getD k 0)]
      _ = ((List.range m.cells.length).map (m.cells.getD · 0)).map some := by
          rw [hlength, List.map_map]
          rfl
      _ = m.snapshot.map some := by
          rw [map_range_getD]
          rfl

end Memory

end LittleMan
