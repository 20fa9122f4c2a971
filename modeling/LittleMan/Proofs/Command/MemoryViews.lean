import LittleMan.Proofs.Command.Ending
import LittleMan.Proofs.Command.StoryLines
import LittleMan.Proofs.Machine.Range
import LittleMan.Proofs.Memory.Grid
import Mathlib.Data.List.DropRight

/-!
# Views of the memory

A memory is shown in two ways, as a grid and as a disassembly, and neither of them loses a word. The
rows of a disassembly are read by their columns (`Command.rowAddress?`, `Command.rowWord?`,
`Command.rowText`), and they show the mailboxes from zero on (`Command.Disassembles`). The zeros at
the end are left out, but a zero in front of another word is not, and one row stays in any case. So
what is shown, padded with zeros, is the memory again (`Command.padded_take_trimmedSize`), and it
does not end in a zero unless that is all (`Command.getLast?_take_trimmedSize`). What is read off
the grid is told in `Memory.showsCells_dump`.
-/

namespace LittleMan

namespace Command

/-! ### Columns of a disassembly -/

/-- The number of the mailbox in a row of a disassembly. -/
def rowAddress? (row : Text) : Option Nat :=
  Text.value? (row.take 2)

/-- The word in a row. -/
def rowWord? (row : Text) : Option Int :=
  Text.signed? Text.count? ((row.drop 4).take 3)

/-- What stands behind the word in a row. -/
def rowText (row : Text) : Text :=
  row.drop 9

/-- Rows show mailboxes from zero on, each with its word and what that is disassembled to. -/
structure Disassembles (cells : List Int) (rows : List Text) : Prop where
  addresses : rows.map rowAddress? = (List.range cells.length).map some
  words : rows.map rowWord? = cells.map some
  texts : rows.map rowText = cells.map disassemble

section

variable {address : Nat} {word : Int} {cells : List Int}

/-- What stands in the columns of a row. -/
lemma columns_append {left middle : Text} (hleft : left.length = 2) (hmiddle : middle.length = 3)
    (text : Text) : (left ++ ": " ++ middle ++ "  " ++ text).take 2 = left ∧
      ((left ++ ": " ++ middle ++ "  " ++ text).drop 4).take 3 = middle ∧
        (left ++ ": " ++ middle ++ "  " ++ text).drop 9 = text := by
  obtain ⟨a, b, rfl⟩ := List.length_eq_two.mp hleft
  obtain ⟨c, d, e, rfl⟩ := List.length_eq_three.mp hmiddle
  exact ⟨rfl, rfl, rfl⟩

/-- The row of a mailbox shows the mailbox and its word. -/
lemma columns_disassemblyRow (haddress : address < mailboxCount) (hword : IsWord word) :
    rowAddress? (disassemblyRow address word) = some address ∧
      rowWord? (disassemblyRow address word) = some word ∧
      rowText (disassemblyRow address word) = disassemble word := by
  have hdigits : (Text.digits address).length ≤ 2 :=
    (Nat.length_toDigits_le_iff (by decide) (by decide)).mpr haddress
  obtain ⟨hleft, hmiddle, htext⟩ := columns_append (Text.length_zeroPadded hdigits)
    (MachineCode.row_of_isWord hword).1 (disassemble word)
  unfold rowAddress? rowWord? rowText disassemblyRow
  rw [hleft, hmiddle, htext]
  exact ⟨Text.value?_zeroPadded 2 address, Text.signed?_zeroPadded 3 word, rfl⟩

/-- It is on one line. -/
lemma isOneLine_disassemblyRow (address : Nat) (word : Int) :
    Text.IsOneLine (disassemblyRow address word) :=
  .append (.append (.append (.append (Text.isOneLine_zeroPadded 2 _) (by decide))
    (Text.isOneLine_zeroPadded 3 _)) (by decide)) (isOneLine_disassemble word)

/-- The rows of up to a hundred words show them. -/
lemma disassembles_mapIdx (hlength : cells.length ≤ mailboxCount) (hwords : ∀ w ∈ cells, IsWord w) :
    Disassembles cells (cells.mapIdx disassemblyRow) := by
  have hcolumns (k : Nat) (hk : k < cells.length) :=
    columns_disassemblyRow (Nat.lt_of_lt_of_le hk hlength) (hwords _ (List.getElem_mem hk))
  constructor
  · refine List.ext_getElem (by simp) fun k _ hk => ?_
    rw [List.length_map, List.length_range] at hk
    simpa using (hcolumns k hk).1
  · refine List.ext_getElem (by simp) fun k _ hk => ?_
    rw [List.length_map] at hk
    simpa using (hcolumns k hk).2.1
  · refine List.ext_getElem (by simp) fun k _ hk => ?_
    rw [List.length_map] at hk
    simpa using (hcolumns k hk).2.2

/-! ### Zeros at the end -/

/-- What is shown of the mailboxes is what stands in front of the zeros at the end, or one word. -/
lemma trimmedSize_eq (cells : List Int) :
    trimmedSize cells = max 1 (cells.rdropWhile (· == 0)).length := by
  unfold trimmedSize List.rdropWhile
  rw [List.length_reverse]

/-- What is left out are zeros. -/
lemma eq_zero_of_mem_drop {w : Int} (h : w ∈ cells.drop (trimmedSize cells)) : w = 0 := by
  have hsplit : cells.rdropWhile (· == 0) ++ cells.rtakeWhile (· == 0) = cells :=
    List.rdropWhile_append_rtakeWhile
  have hle : (cells.rdropWhile (· == 0)).length ≤ trimmedSize cells :=
    trimmedSize_eq cells ▸ Nat.le_max_right _ _
  generalize trimmedSize cells = size at h hle
  rw [← hsplit, List.drop_append, List.drop_eq_nil_of_le hle, List.nil_append] at h
  simpa using List.mem_rtakeWhile_imp (List.mem_of_mem_drop h)

/-- Padded with zeros, what is shown of a hundred mailboxes is all of them. -/
lemma padded_take_trimmedSize (h : cells.length = mailboxCount) :
    padded (cells.take (trimmedSize cells)) = cells := by
  have hzeros : cells.drop (trimmedSize cells) =
      List.replicate (mailboxCount - (cells.take (trimmedSize cells)).length) 0 := by
    refine List.eq_replicate_iff.mpr ⟨?_, fun w => eq_zero_of_mem_drop⟩
    rw [List.length_drop, List.length_take, h]
    omega
  unfold padded
  rw [← hzeros, List.take_append_drop]

/-- It does not end in a zero, unless this is all that is shown. -/
lemma getLast?_take_trimmedSize (h : (cells.take (trimmedSize cells)).getLast? = some 0) :
    (cells.take (trimmedSize cells)).length = 1 := by
  have hprefix : cells.rdropWhile (· == 0) <+: cells := List.rdropWhile_prefix _ _
  rw [trimmedSize_eq] at h ⊢
  by_cases hnil : cells.rdropWhile (· == 0) = []
  · rw [hnil, List.length_nil, Nat.max_zero] at h ⊢
    have hne : cells.take 1 ≠ [] := fun heq => by simp [heq] at h
    have hpos := List.length_pos_iff.mpr hne
    have hle := List.length_take_le 1 cells
    omega
  · -- the last word in front of the zeros is none
    have hlast := List.rdropWhile_last_not _ _ hnil
    rw [Nat.max_eq_right (List.length_pos_iff.mpr hnil), ← List.prefix_iff_eq_take.mp hprefix,
      List.getLast?_eq_getLast_of_ne_nil hnil] at h
    simp [Option.some.inj h] at hlast

end

/-! ### Both views -/

/-- Two reports show the mailboxes of a memory as a disassembly, the one without the zeros at the
end and the other with them. -/
structure ShowMailboxes (plain all : Report) (cells : List Int) : Prop where
  exit : plain.exit = exitOk ∧ all.exit = exitOk
  all_rows : (Text.lines all.stdout).length = 100 ∧ Disassembles cells (Text.lines all.stdout)
  /-- Nothing is lost with the zeros, and no other zero is at the end. -/
  plain_rows : ∃ shown, Disassembles shown (Text.lines plain.stdout) ∧ padded shown = cells ∧
    shown ≠ [] ∧ (shown.getLast? = some 0 → shown.length = 1)
  rows_prefix : Text.lines plain.stdout <+: Text.lines all.stdout
  stdout_prefix : plain.stdout <+: all.stdout

section

variable {cells : List Int}

/-- The rows of a disassembly are a part of those with all mailboxes. -/
lemma disassemblyRows_false (cells : List Int) : disassemblyRows cells false =
    (cells.take (trimmedSize cells)).mapIdx disassemblyRow := by
  refine List.ext_getElem (by simp [disassemblyRows]) fun k _ _ => ?_
  simp [disassemblyRows]

/-- Rows that are printed are read as the lines. -/
lemma lines_disassemblyRows (cells : List Int) (all : Bool) :
    Text.lines (Text.closeRows (disassemblyRows cells all)) = disassemblyRows cells all := by
  have hrow : ∀ row ∈ cells.mapIdx disassemblyRow, Text.IsOneLine row := by
    intro row hrow
    obtain ⟨k, hk, rfl⟩ := List.mem_mapIdx.mp hrow
    exact isOneLine_disassemblyRow k _
  refine Text.lines_closeRows fun row hmem => hrow row ?_
  cases all with
  | true => exact hmem
  | false => exact List.mem_of_mem_take hmem

/-- The disassembly of a hundred words shows them. -/
theorem showMailboxes_ofRows (hlength : cells.length = mailboxCount)
    (hwords : ∀ w ∈ cells, IsWord w) (log log' : List Log.Line) :
    ShowMailboxes (.ofRows log (disassemblyRows cells false))
      (.ofRows log' (disassemblyRows cells true)) cells := by
  have hprefix : disassemblyRows cells false <+: disassemblyRows cells true :=
    List.take_prefix _ _
  have hne : cells.take (trimmedSize cells) ≠ [] := by
    have hpos : 0 < trimmedSize cells := trimmedSize_eq cells ▸ Nat.le_max_left _ _
    rw [← List.length_pos_iff, List.length_take, hlength]
    exact Nat.lt_min.mpr ⟨hpos, by decide⟩
  constructor
  · exact ⟨rfl, rfl⟩
  · rw [Report.ofRows, lines_disassemblyRows]
    exact ⟨List.length_mapIdx.trans hlength, disassembles_mapIdx hlength.le hwords⟩
  · refine ⟨cells.take (trimmedSize cells), ?_, padded_take_trimmedSize hlength, hne,
      getLast?_take_trimmedSize⟩
    rw [Report.ofRows, lines_disassemblyRows, disassemblyRows_false]
    refine disassembles_mapIdx ?_ fun w hw => hwords w (List.mem_of_mem_take hw)
    exact (List.length_take_le' _ _).trans hlength.le
  · rw [Report.ofRows, Report.ofRows, lines_disassemblyRows, lines_disassemblyRows]
    exact hprefix
  · obtain ⟨rest, hrest⟩ := hprefix
    refine ⟨Text.closeRows rest, ?_⟩
    rw [Report.ofRows, Report.ofRows, ← hrest, Text.closeRows_append]

end

/-- A program file whose words fit into the mailboxes is disassembled from the memory into which
they are loaded. -/
lemma exists_report_disasm {read : Reader} {program : Text} {words : List Int}
    (h : GivesProgram read program words) (hlength : words.length ≤ 100) (all : Bool) :
    ∃ log, (Command.disasm program all).report read =
      .ofRows log (disassemblyRows (padded words) all) := by
  have hwords := givesProgram_iff.mp h
  change ∃ log, reportDisasm read program all = _
  unfold reportDisasm
  rcases hload : loadProgram read program with ⟨log, f | words'⟩
  · rw [hload] at hwords
    cases hwords
  · rw [hload] at hwords
    obtain rfl : words' = words := Except.ok.inj hwords
    dsimp only
    rw [Memory.load_integers _ hlength h.isWord]
    exact ⟨log, rfl⟩

/-- The views of the memory lose nothing. Every program file whose words fit into the mailboxes is
disassembled in rows that show the mailboxes from zero on, each with its word and what that is
disassembled to. The words that are shown are, padded with zeros, those of the memory into which the
program is loaded; the last one is zero only if it stands alone; and on request all hundred rows are
shown, of which the others are the first ones. The grid of any memory, read row by row, gives back
its mailboxes, and in front of every row stands the number of its first mailbox; and the memory of a
machine has a hundred mailboxes after every session. -/
theorem memory_views_lose_nothing :
    (∀ (read : Reader) (program : Text) (words : List Int), GivesProgram read program words →
      words.length ≤ 100 → ∃ memory : Memory, Memory.load {} (words.map .integer) = .ok memory ∧
        memory.snapshot = padded words ∧
        ShowMailboxes ((Command.disasm program false).report read)
          ((Command.disasm program true).report read) memory.snapshot) ∧
    (∀ m : Memory, m.snapshot.length = 100 → Memory.ShowsCells m.dump m.snapshot) ∧
    ∀ requests, (Machine.session {} requests).memory.snapshot.length = 100 := by
  refine ⟨fun read program words h hlength => ?_, fun m hm => Memory.showsCells_dump hm,
    fun requests => (Machine.storesWords_session requests).memory.length_eq⟩
  obtain ⟨log, hplain⟩ := exists_report_disasm h hlength false
  obtain ⟨log', hall⟩ := exists_report_disasm h hlength true
  refine ⟨_, Memory.load_integers {} hlength h.isWord, rfl, ?_⟩
  rw [hplain, hall]
  have hholds := Memory.holdsWords_of_padded hlength h.isWord []
  exact showMailboxes_ofRows hholds.length_eq hholds.isWord log log'

/-- Machine code with zeros in front of, between and behind its other words. -/
theorem memory_views_lose_nothing_gaps :
    let read : Reader := fun _ => .ok (Text.Utf8.encode "0, 902, 0, 7, 0\n")
    let plain := (Command.disasm "gaps.mc" false).report read
    GivesProgram read "gaps.mc" [0, 902, 0, 7, 0] ∧
      Text.lines plain.stdout =
        ["00: 000  HLT", "01: 902  OUT", "02: 000  HLT", "03: 007  HLT"].map String.toList ∧
      ShowMailboxes plain ((Command.disasm "gaps.mc" true).report read)
        (padded [0, 902, 0, 7, 0]) ∧
      Memory.ShowsCells (Memory.dump { cells := padded [0, 902, 0, 7, 0] })
        (padded [0, 902, 0, 7, 0]) := by
  intro read plain
  have hgives : GivesProgram read "gaps.mc" [0, 902, 0, 7, 0] :=
    givesProgram_iff.mpr (by decide +kernel)
  obtain ⟨hdisasm, hgrid, -⟩ := memory_views_lose_nothing
  obtain ⟨memory, -, hsnapshot, hshow⟩ := hdisasm read "gaps.mc" _ hgives (by decide)
  rw [hsnapshot] at hshow
  exact ⟨hgives, by decide +kernel, hshow, hgrid _ (by decide)⟩

end Command

end LittleMan
