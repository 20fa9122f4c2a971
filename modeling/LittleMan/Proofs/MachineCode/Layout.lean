import LittleMan.Proofs.Machine.Refusal
import LittleMan.Proofs.Text.Written
import Mathlib.Data.Nat.Find

/-!
# Machine code in any layout

Words can be laid out as a text in many ways (`LaysOut`): on any number of rows, which end with any
of the line breaks, with commas between the words of a row, with zeros in front of a word and blanks
around it, and with places between commas that are only blank; a row can end with a comment. Reading
undoes this, and takes nothing else (`parse_eq_ok_iff`). The zeros in front of a word are not quite
free: together with its digits they must not be more than are read.

For a text that is no such layout it counts which of its pieces comes first that is no word or has
too many digits (`IsFirstUnreadable`). The pieces are numbered as they stand in the text, by row and
by place in the row (`piece?`), so that rows without words count as well. The fault tells the number
of the row and what stands there, or the number of digits that are too many
(`parse_of_isFirstUnreadable`). All of this is put together in `parse_eq_ok_iff_laysOut`.
-/

namespace LittleMan

namespace Text

/-! ### Rows and breaks -/

/-- The text is a break between rows. -/
inductive IsBreak : Text → Prop where
  /-- A carriage return with a line feed behind it is one break. -/
  | pair : IsBreak ['\r', '\n']
  | single {c : Char} (isLineBreak : Text.isLineBreak c = true) : IsBreak [c]

section

variable {row t : Text} {rows : List Text}

/-- A row comes in front of the empty line with which a text begins. -/
lemma lines_append_of_lines (hrow : ∀ c ∈ row, isLineBreak c = false) (h : lines t = [] :: rows) :
    lines (row ++ t) = row :: rows := by
  induction row with
  | nil => exact h
  | cons c row ih =>
    rw [List.cons_append, lines_cons (hrow c List.mem_cons_self),
      ih fun d hd => hrow d (List.mem_cons_of_mem c hd)]
    rfl

/-- What is collected from the lines of a text comes from the first row and from the rest, if
nothing comes from an empty line. For there can be one more line than the rows are: a carriage
return that ends a row and a line feed that ends an empty one are a single break. -/
lemma flatMap_lines_append {α : Type} {f : Text → List α} (hf : f [] = [])
    (hrow : ∀ c ∈ row, isLineBreak c = false) {between : Text} (hbetween : IsBreak between)
    (rest : Text) :
    (lines (row ++ (between ++ rest))).flatMap f = f row ++ (lines rest).flatMap f := by
  cases hbetween with
  | pair =>
    have hlines : lines (['\r', '\n'] ++ rest) = [] :: lines rest := rfl
    rw [lines_append_of_lines hrow hlines, List.flatMap_cons]
  | @single c hc =>
    by_cases hpair : c = '\r' ∧ ∃ rest', rest = '\n' :: rest'
    · obtain ⟨rfl, rest', rfl⟩ := hpair
      have hlines : lines (['\r'] ++ '\n' :: rest') = [] :: lines rest' := rfl
      have hrest : lines ('\n' :: rest') = [] :: lines rest' := rfl
      rw [lines_append_of_lines hrow hlines, hrest, List.flatMap_cons, List.flatMap_cons, hf,
        List.nil_append]
    · have hlines : lines ([c] ++ rest) = [] :: lines rest :=
        lines_break hc fun hcr rest' hrest => hpair ⟨hcr, rest', hrest⟩
      rw [lines_append_of_lines hrow hlines, List.flatMap_cons]

/-- What is collected from the lines of a row comes from the row. -/
lemma flatMap_lines_row {α : Type} {f : Text → List α} (hf : f [] = [])
    (hrow : ∀ c ∈ row, isLineBreak c = false) : (lines row).flatMap f = f row := by
  by_cases hne : row = []
  · rw [hne, hf]
    rfl
  · rw [lines_eq_singleton hne hrow, List.flatMap_singleton]

/-- All of a text stands before what a character opens that it does not have. -/
lemma before_append_of_head? {a : Char} {rest : Text} (ht : a ∉ t)
    (hrest : ∀ c ∈ rest.head?, c = a) : before a (t ++ rest) = t := by
  have hself : before a t = t := before_eq_self ht
  unfold before at hself ⊢
  rw [List.takeWhile_append_of_pos (List.takeWhile_eq_self_iff.mp hself)]
  cases rest with
  | nil => rw [List.takeWhile_nil, List.append_nil]
  | cons c rest => rw [List.takeWhile_cons_of_neg (by simp [hrest c rfl]), List.append_nil]

end

end Text

namespace MachineCode

/-! ### Layouts -/

/-- The pieces lay out the words: each piece is a numeral of the next word in blanks, with no more
digits than are read, or is only blank. -/
inductive PiecesLayOut : List Nat → List Text → Prop where
  | nil : PiecesLayOut [] []
  | blank {words : List Nat} {piece : Text} {pieces : List Text}
      (isInBlanks : Text.IsInBlanks [] piece) (rest : PiecesLayOut words pieces) :
      PiecesLayOut words (piece :: pieces)
  | word {n : Nat} {words : List Nat} {piece : Text} {pieces : List Text}
      (isNumeral : Text.IsReadNumeralOf n piece) (rest : PiecesLayOut words pieces) :
      PiecesLayOut (n :: words) (piece :: pieces)

/-- The row lays out the words: pieces with commas between them, and a comment if there is one. -/
def RowLaysOut (words : List Nat) (row : Text) : Prop :=
  ∃ pieces comment, row = List.intercalate [','] pieces ++ comment ∧ pieces ≠ [] ∧
    PiecesLayOut words pieces ∧ (∀ c ∈ comment.head?, c = '#') ∧
    ∀ c ∈ row, Text.isLineBreak c = false

/-- The text lays out the words: rows with breaks between them, of which the last one can be
empty. -/
inductive LaysOut : List Nat → Text → Prop where
  | last {words : List Nat} {row : Text} (isRow : RowLaysOut words row) : LaysOut words row
  | row {first words : List Nat} {row between rest : Text} (isRow : RowLaysOut first row)
      (isBreak : Text.IsBreak between) (isRest : LaysOut words rest) :
      LaysOut (first ++ words) (row ++ (between ++ rest))

/-- What is left of the pieces that are not blank, without the blanks at their ends. -/
def tokensOf (pieces : List Text) : List Text :=
  (pieces.map Text.strip).filter (!·.isEmpty)

/-- A blank piece is passed over. -/
lemma tokensOf_cons_of_blank {piece : Text} (h : Text.strip piece = []) (pieces : List Text) :
    tokensOf (piece :: pieces) = tokensOf pieces := by
  unfold tokensOf
  rw [List.map_cons, h, List.filter_cons_of_neg (by decide)]

/-- Any other piece is not. -/
lemma tokensOf_cons_of_ne {piece : Text} (h : Text.strip piece ≠ []) (pieces : List Text) :
    tokensOf (piece :: pieces) = Text.strip piece :: tokensOf pieces := by
  unfold tokensOf
  rw [List.map_cons, List.filter_cons_of_pos (by simpa using h)]

/-- A token is what is left of a piece. -/
lemma exists_of_mem_tokensOf {pieces : List Text} {token : Text} (h : token ∈ tokensOf pieces) :
    token ≠ [] ∧ ∃ piece ∈ pieces, Text.strip piece = token := by
  obtain ⟨hmem, hne⟩ := List.mem_filter.mp h
  exact ⟨by simpa using hne, List.mem_map.mp hmem⟩

/-- Of the pieces that lay out words, those that are not blank are their numerals. -/
lemma piecesLayOut_iff {words : List Nat} {pieces : List Text} : PiecesLayOut words pieces ↔
    List.Forall₂ (fun n token => Text.numeral? token = some (.ok n)) words (tokensOf pieces) := by
  constructor
  · intro h
    induction h with
    | nil => exact .nil
    | blank isInBlanks _ ih =>
      rw [tokensOf_cons_of_blank (Text.strip_eq_iff.mpr ⟨Text.isTrimmed_nil, isInBlanks⟩)]
      exact ih
    | word isNumeral _ ih =>
      rw [tokensOf_cons_of_ne isNumeral.isSpaced.strip_ne_nil]
      exact .cons (Text.numeral?_strip_eq_some_iff.mpr isNumeral) ih
  · intro h
    induction pieces generalizing words with
    | nil =>
      cases h
      exact .nil
    | cons piece pieces ih =>
      by_cases hblank : Text.strip piece = []
      · rw [tokensOf_cons_of_blank hblank] at h
        exact .blank (Text.strip_eq_iff.mp hblank).2 (ih h)
      · rw [tokensOf_cons_of_ne hblank] at h
        cases h with
        | cons hnumeral hrest =>
          exact .word (Text.numeral?_strip_eq_some_iff.mp hnumeral) (ih hrest)

/-- No separator stands in pieces that lay out words. -/
lemma PiecesLayOut.not_mem {words : List Nat} {pieces : List Text} (h : PiecesLayOut words pieces)
    {a : Char} (hblank : Text.isBlank a = false) (hdigit : a.isDigit = false) :
    ∀ piece ∈ pieces, a ∉ piece := by
  induction h with
  | nil => exact nofun
  | blank isInBlanks _ ih =>
    exact List.forall_mem_cons.mpr ⟨isInBlanks.not_mem hblank List.not_mem_nil, ih⟩
  | word isNumeral _ ih =>
    exact List.forall_mem_cons.mpr ⟨isNumeral.isSpaced.not_mem hblank hdigit, ih⟩

/-- The tokens of a row that lays out words are numerals of them. -/
lemma rowLaysOut_iff {words : List Nat} {row : Text} : RowLaysOut words row ↔
    (∀ c ∈ row, Text.isLineBreak c = false) ∧
      List.Forall₂ (fun n token => Text.numeral? token = some (.ok n)) words (tokens row) := by
  constructor
  · rintro ⟨pieces, comment, rfl, hne, hpieces, hcomment, hbreak⟩
    refine ⟨hbreak, ?_⟩
    have hcomma := hpieces.not_mem (a := ',') (by decide) (by decide)
    have hhash := hpieces.not_mem (a := '#') (by decide) (by decide)
    have hbefore : Text.before '#' (List.intercalate [','] pieces ++ comment) =
        List.intercalate [','] pieces :=
      Text.before_append_of_head? (Text.not_mem_intercalate (by decide) hhash) hcomment
    unfold tokens
    rw [hbefore, List.splitOn_intercalate ',' hcomma hne]
    exact piecesLayOut_iff.mp hpieces
  · rintro ⟨hbreak, htokens⟩
    refine ⟨(Text.before '#' row).splitOn ',', row.dropWhile (· != '#'), ?_,
      List.splitOn_ne_nil _ _, piecesLayOut_iff.mpr htokens, ?_, hbreak⟩
    · rw [List.intercalate_splitOn]
      exact List.takeWhile_append_dropWhile.symm
    · intro c hc
      have hstop := List.head?_dropWhile_not (· != '#') row
      rw [hc] at hstop
      simpa using hstop

/-- The tokens of a text that lays out words are numerals of them. -/
lemma laysOut_iff {words : List Nat} {t : Text} : LaysOut words t ↔
    List.Forall₂ (fun n token => Text.numeral? token = some (.ok n)) words
      ((Text.lines t).flatMap tokens) := by
  have hempty : tokens [] = [] := by decide
  constructor
  · intro h
    induction h with
    | last isRow =>
      obtain ⟨hbreak, htokens⟩ := rowLaysOut_iff.mp isRow
      rw [Text.flatMap_lines_row hempty hbreak]
      exact htokens
    | row isRow isBreak _ ih =>
      obtain ⟨hbreak, htokens⟩ := rowLaysOut_iff.mp isRow
      rw [Text.flatMap_lines_append hempty hbreak isBreak]
      exact List.rel_append htokens ih
  · intro h
    induction t using Text.parts_induction Text.isLineBreak generalizing words with
    | last row hrow =>
      rw [Text.flatMap_lines_row hempty hrow] at h
      exact .last (rowLaysOut_iff.mpr ⟨hrow, h⟩)
    | part row c rest hrow hc ih =>
      have hbreak : Text.IsBreak [c] := .single hc
      have hlines := Text.flatMap_lines_append hempty hrow hbreak rest
      rw [List.singleton_append] at hlines
      rw [hlines] at h
      have hfirst := List.forall₂_take_append _ _ _ h
      have hrest := List.forall₂_drop_append _ _ _ h
      rw [← List.take_append_drop (tokens row).length words]
      exact .row (rowLaysOut_iff.mpr ⟨hrow, hfirst⟩) hbreak (ih hrest)

/-- A word is read from its numerals. -/
lemma readToken_eq_ok_iff {place : Nat × Text} {w : Int} : readToken place = .ok w ↔
    ∃ n : Nat, n ≤ 999 ∧ Text.numeral? place.2 = some (.ok n) ∧ w = n := by
  unfold readToken
  dsimp only
  cases Text.numeral? place.2 with
  | none => simp
  | some read =>
    cases read with
    | error o => simp
    | ok n =>
      by_cases h : n ≤ 999
      · simp [h, eq_comm]
      · simp [h]

/-- The tokens of rows, each with the number of its row; the first row has a given number. -/
def tokensFrom (number : Nat) (rows : List Text) : List (Nat × Text) :=
  (rows.zipIdx number).flatMap fun (line, number) => (tokens line).map (number, ·)

/-- The tokens of rows, without their numbers. -/
lemma map_snd_tokensFrom (number : Nat) (rows : List Text) :
    (tokensFrom number rows).map Prod.snd = rows.flatMap tokens := by
  unfold tokensFrom
  induction rows generalizing number with
  | nil => rfl
  | cons row rows ih =>
    rw [List.zipIdx_cons, List.flatMap_cons, List.flatMap_cons, List.map_append, ih, List.map_map]
    exact congrArg (· ++ _) (List.map_id _)

/-- A text reads as words exactly if it lays them out. -/
lemma parse_eq_ok_iff {t : Text} {words : List Int} : parse t = .ok words ↔
    ∃ ns : List Nat, (∀ n ∈ ns, n ≤ 999) ∧ LaysOut ns t ∧
      words = ns.map fun n : Nat => (n : Int) := by
  have hread : List.Forall₂ (fun place w => readToken place = .ok w) (numberedTokens t) words ↔
      List.Forall₂ (fun token (w : Int) =>
          ∃ n : Nat, n ≤ 999 ∧ Text.numeral? token = some (.ok n) ∧ w = n)
        ((numberedTokens t).map Prod.snd) words := by
    rw [List.forall₂_map_left_iff]
    simp only [readToken_eq_ok_iff]
  have htokens : (numberedTokens t).map Prod.snd = (Text.lines t).flatMap tokens :=
    map_snd_tokensFrom 1 (Text.lines t)
  unfold parse
  rw [mapM_eq_ok_iff, hread, htokens, forall₂_natCast_iff]
  simp only [laysOut_iff]

/-! ### Pieces by their places -/

/-- The piece at a place of the text, counted from zero: the row, and of what stands in front of its
comment what stands between the commas. -/
def piece? (t : Text) (row place : Nat) : Option Text :=
  (Text.lines t)[row]?.bind fun line => ((Text.before '#' line).splitOn ',')[place]?

/-- What is left of the piece without the blanks at its ends is nothing, or a numeral in digits of
ASCII with a value of at most 999; but it is not overlong. -/
def IsReadable (piece : Text) : Prop :=
  (Text.strip piece = [] ∨
    (∀ c ∈ Text.strip piece, c.isDigit = true) ∧ Text.digitsValue (Text.strip piece) ≤ 999) ∧
  ¬ Text.IsOverlong piece

/-- The piece at the place is the first one in the order of reading that is not readable. -/
structure IsFirstUnreadable (t : Text) (row place : Nat) (piece : Text) : Prop where
  at_place : piece? t row place = some piece
  unreadable : ¬ IsReadable piece
  earlier : ∀ row' place' piece', row' < row ∨ row' = row ∧ place' < place →
    piece? t row' place' = some piece' → IsReadable piece'

/-- The cause of which a token in the row of a number is refused. -/
def refusal (number : Nat) (token : Text) : Fault.Cause :=
  if token.all Char.isDigit then
    if token.length ≤ Text.digitLimit then .numeralTooLarge number token
    else .overflow (.reading token.length)
  else .notANumeral number token

section

variable {t : Text}

/-- A token is a numeral if it has digits only. -/
lemma isNumeral_iff {token : Text} (hne : token ≠ []) :
    Text.isNumeral token = true ↔ ∀ c ∈ token, c.isDigit = true := by
  unfold Text.isNumeral
  rw [Bool.and_eq_true, List.all_eq_true]
  exact and_iff_right (by simpa using hne)

/-- If the piece is not readable, its token is refused. -/
lemma readToken_of_not_isReadable {piece : Text} (number : Nat) (h : ¬ IsReadable piece) :
    Text.strip piece ≠ [] ∧
      readToken (number, Text.strip piece) = .error (refusal number (Text.strip piece)) := by
  have hne : Text.strip piece ≠ [] := by
    intro hnil
    refine h ⟨.inl hnil, fun hoverlong => ?_⟩
    rw [Text.IsOverlong, hnil] at hoverlong
    exact absurd hoverlong.2 (Nat.not_lt_zero _)
  refine ⟨hne, ?_⟩
  unfold readToken refusal Text.numeral? Text.readDigits
  dsimp only
  by_cases hall : (Text.strip piece).all Char.isDigit = true
  · have hdigits := List.all_eq_true.mp hall
    rw [if_pos ((isNumeral_iff hne).mpr hdigits), if_pos hall]
    by_cases hlength : (Text.strip piece).length ≤ Text.digitLimit
    · have hvalue : ¬ Text.digitsValue (Text.strip piece) ≤ 999 := fun hle =>
        h ⟨.inr ⟨hdigits, hle⟩, fun hoverlong => Nat.not_lt.mpr hlength hoverlong.2⟩
      rw [if_pos hlength, if_pos hlength]
      exact if_neg hvalue
    · rw [if_neg hlength, if_neg hlength]
  · have hnot : ¬ Text.isNumeral (Text.strip piece) = true :=
      fun hnumeral => hall (List.all_eq_true.mpr ((isNumeral_iff hne).mp hnumeral))
    rw [if_neg hnot, if_neg hall]

/-- If the piece is readable, its token is read. -/
lemma exists_readToken {numbered : Nat × Text} {piece : Text} (h : IsReadable piece)
    (hstrip : Text.strip piece = numbered.2) (hne : numbered.2 ≠ []) :
    ∃ w, readToken numbered = .ok w := by
  obtain ⟨hnil | ⟨hdigits, hvalue⟩, hshort⟩ := h
  · rw [hnil] at hstrip
    exact absurd hstrip.symm hne
  · unfold Text.IsOverlong at hshort
    rw [hstrip] at hdigits hvalue hshort
    have hlength : numbered.2.length ≤ Text.digitLimit :=
      Nat.not_lt.mp fun hlong => hshort ⟨hdigits, hlong⟩
    have hnumeral : Text.numeral? numbered.2 = some (.ok (Text.digitsValue numbered.2)) := by
      unfold Text.numeral? Text.readDigits
      rw [if_pos ((isNumeral_iff hne).mpr hdigits), if_pos hlength]
    exact ⟨_, readToken_eq_ok_iff.mpr ⟨_, hvalue, hnumeral, rfl⟩⟩

/-- A piece stands at a place of a row. -/
lemma piece?_eq_some_iff {row place : Nat} {piece : Text} : piece? t row place = some piece ↔
    ∃ line, (Text.lines t)[row]? = some line ∧
      ((Text.before '#' line).splitOn ',')[place]? = some piece :=
  Option.bind_eq_some_iff

/-- A token with the number of its row is a token of the row. -/
lemma exists_of_mem_tokensFrom {number : Nat} {rows : List Text} {numbered : Nat × Text}
    (h : numbered ∈ tokensFrom number rows) : ∃ line ∈ rows, numbered.2 ∈ tokens line := by
  obtain ⟨⟨line, n⟩, hline, hmem⟩ := List.mem_flatMap.mp h
  obtain ⟨token, htoken, rfl⟩ := List.mem_map.mp hmem
  exact ⟨line, List.fst_mem_of_mem_zipIdx hline, htoken⟩

/-- If all pieces are readable, the text is read. -/
lemma exists_parse_of_forall
    (h : ∀ row place piece, piece? t row place = some piece → IsReadable piece) :
    ∃ words, parse t = .ok words := by
  cases hparse : parse t with
  | ok words => exact ⟨words, rfl⟩
  | error cause =>
    obtain ⟨before, numbered, after, hsplit, -, hrefused⟩ := mapM_eq_error_iff.mp hparse
    have hmem : numbered ∈ tokensFrom 1 (Text.lines t) := by
      change numbered ∈ numberedTokens t
      rw [hsplit]
      exact List.mem_append_right before List.mem_cons_self
    obtain ⟨line, hline, htoken⟩ := exists_of_mem_tokensFrom hmem
    obtain ⟨hne, piece, hpiece, hstrip⟩ := exists_of_mem_tokensOf htoken
    obtain ⟨row, hrow⟩ := List.getElem?_of_mem hline
    obtain ⟨place, hplace⟩ := List.getElem?_of_mem hpiece
    have hreadable := h row place piece (piece?_eq_some_iff.mpr ⟨line, hrow, hplace⟩)
    obtain ⟨w, hw⟩ := exists_readToken hreadable hstrip hne
    rw [hw] at hrefused
    cases hrefused

/-- If some piece is not readable, one is the first. -/
lemma exists_isFirstUnreadable {row place : Nat} {piece : Text}
    (h : piece? t row place = some piece) (hpiece : ¬ IsReadable piece) :
    ∃ row place piece, IsFirstUnreadable t row place piece := by
  classical
  have hrow : ∃ row, ∃ place piece, piece? t row place = some piece ∧ ¬ IsReadable piece :=
    ⟨row, place, piece, h, hpiece⟩
  have hplace := Nat.find_spec hrow
  obtain ⟨first, hfirst, hunreadable⟩ := Nat.find_spec hplace
  refine ⟨_, _, first, hfirst, hunreadable, ?_⟩
  rintro row' place' piece' (hlt | ⟨rfl, hlt⟩) hpiece'
  · by_contra hreadable
    exact Nat.find_min hrow hlt ⟨place', piece', hpiece', hreadable⟩
  · by_contra hreadable
    exact Nat.find_min hplace hlt ⟨piece', hpiece', hreadable⟩

/-- A list falls apart at one of its entries. -/
lemma eq_take_append_cons {α : Type} {xs : List α} {k : Nat} {x : α} (h : xs[k]? = some x) :
    xs = xs.take k ++ x :: xs.drop (k + 1) := by
  have hdrop : xs.drop k = x :: xs.drop (k + 1) := by
    rw [List.drop_eq_getElem?_toList_append, h]
    rfl
  rw [← hdrop, List.take_append_drop]

/-- What stands in front of an entry has an earlier place. -/
lemma exists_of_mem_take {α : Type} {xs : List α} {k : Nat} {x : α} (h : x ∈ xs.take k) :
    ∃ i < k, xs[i]? = some x := by
  obtain ⟨i, hi, rfl⟩ := List.mem_take_iff_getElem.mp h
  exact ⟨i, (Nat.lt_min.mp hi).1, List.getElem?_eq_getElem _⟩

/-- The tokens fall apart at that of a piece: in front of it are those of the earlier rows and those
of the earlier pieces of its row. -/
lemma exists_numberedTokens_eq {row place : Nat} {line piece : Text}
    (hline : (Text.lines t)[row]? = some line)
    (hpiece : ((Text.before '#' line).splitOn ',')[place]? = some piece)
    (hne : Text.strip piece ≠ []) : ∃ after, numberedTokens t =
      (tokensFrom 1 ((Text.lines t).take row) ++
        (tokensOf (((Text.before '#' line).splitOn ',').take place)).map (row + 1, ·)) ++
      (row + 1, Text.strip piece) :: after := by
  have hrow : row < (Text.lines t).length := (List.getElem?_eq_some_iff.mp hline).1
  have htokens : tokens line = tokensOf (((Text.before '#' line).splitOn ',').take place) ++
      Text.strip piece :: tokensOf (((Text.before '#' line).splitOn ',').drop (place + 1)) := by
    change tokensOf ((Text.before '#' line).splitOn ',') = _
    conv_lhs => rw [eq_take_append_cons hpiece]
    rw [← tokensOf_cons_of_ne hne]
    unfold tokensOf
    rw [List.map_append, List.filter_append]
  have hsplit : numberedTokens t = tokensFrom 1 ((Text.lines t).take row) ++
      tokensFrom (1 + row) (line :: (Text.lines t).drop (row + 1)) := by
    change tokensFrom 1 (Text.lines t) = _
    conv_lhs => rw [eq_take_append_cons hline]
    unfold tokensFrom
    rw [List.zipIdx_append, List.flatMap_append, List.length_take, Nat.min_eq_left hrow.le]
  refine ⟨(tokensOf (((Text.before '#' line).splitOn ',').drop (place + 1))).map (row + 1, ·) ++
    tokensFrom (row + 2) ((Text.lines t).drop (row + 1)), ?_⟩
  have hfirst : tokensFrom (1 + row) (line :: (Text.lines t).drop (row + 1)) =
      (tokens line).map (row + 1, ·) ++ tokensFrom (row + 2) ((Text.lines t).drop (row + 1)) := by
    unfold tokensFrom
    rw [List.zipIdx_cons, List.flatMap_cons, Nat.add_comm 1 row]
  rw [hsplit, hfirst, htokens, List.map_append, List.map_cons]
  simp only [List.append_assoc, List.cons_append]

/-- The first piece that is not readable is refused. -/
theorem parse_of_isFirstUnreadable {row place : Nat} {piece : Text}
    (h : IsFirstUnreadable t row place piece) :
    parse t = .error (refusal (row + 1) (Text.strip piece)) := by
  obtain ⟨line, hline, hpiece⟩ := piece?_eq_some_iff.mp h.at_place
  obtain ⟨hne, hrefused⟩ := readToken_of_not_isReadable (row + 1) h.unreadable
  obtain ⟨after, hsplit⟩ := exists_numberedTokens_eq hline hpiece hne
  refine mapM_eq_error_iff.mpr ⟨_, _, after, hsplit, fun numbered hmem => ?_, hrefused⟩
  rcases List.mem_append.mp hmem with hmem | hmem
  · obtain ⟨line', hline', htoken⟩ := exists_of_mem_tokensFrom hmem
    obtain ⟨hne', piece', hpiece', hstrip⟩ := exists_of_mem_tokensOf htoken
    obtain ⟨row', hlt, hrow'⟩ := exists_of_mem_take hline'
    obtain ⟨place', hplace'⟩ := List.getElem?_of_mem hpiece'
    have hreadable := h.earlier row' place' piece' (.inl hlt)
      (piece?_eq_some_iff.mpr ⟨line', hrow', hplace'⟩)
    exact exists_readToken hreadable hstrip hne'
  · obtain ⟨token, htoken, rfl⟩ := List.mem_map.mp hmem
    obtain ⟨hne', piece', hpiece', hstrip⟩ := exists_of_mem_tokensOf htoken
    obtain ⟨place', hlt, hplace'⟩ := exists_of_mem_take hpiece'
    have hreadable := h.earlier row place' piece' (.inr ⟨rfl, hlt⟩)
      (piece?_eq_some_iff.mpr ⟨line, hline, hplace'⟩)
    exact exists_readToken hreadable hstrip hne'

/-- A text is read exactly if all of its pieces are readable. -/
lemma exists_parse_iff : (∃ words, parse t = .ok words) ↔
    ∀ row place piece, piece? t row place = some piece → IsReadable piece := by
  refine ⟨?_, exists_parse_of_forall⟩
  rintro ⟨words, hwords⟩ row place piece hpiece
  by_contra hunreadable
  obtain ⟨_, _, _, hfirst⟩ := exists_isFirstUnreadable hpiece hunreadable
  rw [parse_of_isFirstUnreadable hfirst] at hwords
  cases hwords

/-- A text that is not read is refused for its first piece that is not readable. -/
lemma exists_isFirstUnreadable_of_parse {cause : Fault.Cause} (h : parse t = .error cause) :
    ∃ row place piece, IsFirstUnreadable t row place piece ∧
      cause = refusal (row + 1) (Text.strip piece) := by
  have hnot : ¬ ∀ row place piece, piece? t row place = some piece → IsReadable piece := by
    intro hall
    obtain ⟨words, hwords⟩ := exists_parse_of_forall hall
    rw [h] at hwords
    cases hwords
  push Not at hnot
  obtain ⟨row, place, piece, hpiece, hunreadable⟩ := hnot
  obtain ⟨row, place, piece, hfirst⟩ := exists_isFirstUnreadable hpiece hunreadable
  refine ⟨row, place, piece, hfirst, ?_⟩
  rw [parse_of_isFirstUnreadable hfirst] at h
  exact (Except.error.inj h).symm

/-- The refusal of a piece that is not overlong is one of a word, and begins with the number of the
row. -/
lemma kind_reason_refusal (number : Nat) {piece : Text} (h : ¬ Text.IsOverlong piece) :
    (refusal number (Text.strip piece)).kind = .invalidWord ∧
      ∃ what, (refusal number (Text.strip piece)).reason =
        "Line " ++ Text.digits number ++ ": " ++ what := by
  have hbehind (front token : Text) {told what : Text} (h : told = ": " ++ what) :
      front ++ told ++ token = front ++ ": " ++ (what ++ token) := by
    rw [h]
    simp only [List.append_assoc]
  unfold Text.IsOverlong at h
  generalize Text.strip piece = token at h
  unfold refusal
  split
  · next hall =>
    have hlength : token.length ≤ Text.digitLimit :=
      Nat.not_lt.mp fun hlong => h ⟨List.all_eq_true.mp hall, hlong⟩
    rw [if_pos hlength]
    exact ⟨rfl, "word out of range 000-999: " ++ token, hbehind _ token rfl⟩
  · refine ⟨rfl, "not a machine-code word: '" ++ (token ++ "'"), ?_⟩
    rw [← hbehind _ (token ++ "'") rfl, ← List.append_assoc]
    rfl

/-- That of an overlong piece tells the number of digits. -/
lemma refusal_of_isOverlong (number : Nat) {piece : Text} (h : Text.IsOverlong piece) :
    refusal number (Text.strip piece) = .overflow (.reading (Text.strip piece).length) := by
  have hlong : ¬ (Text.strip piece).length ≤ Text.digitLimit := Nat.not_le.mpr h.2
  unfold refusal
  rw [if_pos (List.all_eq_true.mpr h.1), if_neg hlong]

end

/-- Reading machine code undoes laying it out. A text is read as words exactly if it lays them out
without an overlong numeral, and that is so exactly if every piece of it is blank or a numeral of at
most 999, and none is overlong. A text that is not read is refused for its first piece that is not
so: as an invalid word, with the number of the row in which the piece stands, or, if the piece is an
overlong numeral, as an overflow, which is no fault of the machine. A text is loaded exactly if it
is read and has at most a hundred words. -/
theorem parse_eq_ok_iff_laysOut (t : Text) :
    (∀ words, parse t = .ok words ↔ ∃ ns : List Nat, (∀ n ∈ ns, n ≤ 999) ∧ LaysOut ns t ∧
      words = ns.map fun n : Nat => (n : Int)) ∧
    ((∃ words, parse t = .ok words) ↔
      ∀ row place piece, piece? t row place = some piece → IsReadable piece) ∧
    (∀ cause, parse t = .error cause → ∃ row place piece, IsFirstUnreadable t row place piece ∧
      cause = refusal (row + 1) (Text.strip piece) ∧
      (¬ Text.IsOverlong piece → cause.kind = .invalidWord ∧
        ∃ what, cause.reason = "Line " ++ Text.digits (row + 1) ++ ": " ++ what) ∧
      (Text.IsOverlong piece → cause = .overflow (.reading (Text.strip piece).length))) ∧
    ∀ m : Machine,
      ((∃ after, m.loadText t = .ok after) ↔ ∃ words, parse t = .ok words ∧ words.length ≤ 100) ∧
      ((∃ memory, Machine.loadWords m.memory t = .ok memory) ↔
        ∃ words, parse t = .ok words ∧ words.length ≤ 100) := by
  refine ⟨fun words => parse_eq_ok_iff, exists_parse_iff, ?_, ?_⟩
  · intro cause h
    obtain ⟨row, place, piece, hfirst, rfl⟩ := exists_isFirstUnreadable_of_parse h
    exact ⟨row, place, piece, hfirst, rfl, kind_reason_refusal (row + 1),
      refusal_of_isOverlong (row + 1)⟩
  · intro m
    have hload := Machine.exists_loadWords_iff m.memory t
    refine ⟨Iff.trans ?_ hload, hload⟩
    constructor
    · rintro ⟨after, h⟩
      obtain ⟨memory, hmemory, -⟩ := (m.loadText_eq_ok_iff after t).mp h
      exact ⟨memory, hmemory⟩
    · rintro ⟨memory, hmemory⟩
      exact ⟨_, (m.loadText_eq_ok_iff _ t).mpr ⟨memory, hmemory, rfl⟩⟩

/-- Behind a row with two words, a row with a comment and an empty one, a fourth row has a piece
that is no word. -/
def spoiled : Text :=
  " 7,,\t042 # 9\r\n#\u2028\r1, 2x, 1000"

/-- The first piece of it that is not readable is told. -/
theorem parse_eq_ok_iff_laysOut_spoiled :
    parse spoiled = .error (.notANumeral 4 "2x") ∧ ∃ row place piece,
      IsFirstUnreadable spoiled row place piece ∧
      Fault.Cause.notANumeral 4 "2x" = refusal (row + 1) (Text.strip piece) := by
  have hparse : parse spoiled = .error (.notANumeral 4 "2x") := by decide +kernel
  obtain ⟨row, place, piece, hfirst, hrefusal, -⟩ := (parse_eq_ok_iff_laysOut _).2.2.1 _ hparse
  exact ⟨hparse, row, place, piece, hfirst, hrefusal⟩

end MachineCode

end LittleMan
