import LittleMan.Assembly.Assembler
import LittleMan.Proofs.Assembly.Acceptance

/-!
# Assemblers that are used again

An assembler keeps six things from one source to the next, and none of them shows in what it makes
of the next one. The bench is described twice. Once it is what the two passes leave on it, pass by
pass: the first pass adds what the layout of the lines says (`firstPass_eq`), the second one adds a
word or an error for each statement (`encodeOver_fst`) and, if there is no error, fills the image
from mailbox zero on (`encodeOver_snd`); a line that stops it stays with those behind it as it was
(`encodeLines_of_stop?`). And once it is what the assembly of the source says
(`Shows`). Both are the same, whatever was on the bench before (`shows_assemble`), so a session is
answered as if each source came to an assembler of its own (`session_reused`).
-/

namespace LittleMan

namespace Assembly

/-! ### Lines on the bench -/

/-- The lines that a first pass puts on the bench. `free` is the next free mailbox; a line whose
label is taken has it noted, though it is not given away. -/
def benchLines (free : Nat) : List Entry → List KeptLine
  | [] => []
  | .rejected _ :: rest => benchLines free rest
  | .silent line :: rest => { line } :: benchLines free rest
  | .placed line _ address :: rest =>
    { line, address := some address } :: benchLines (free + 1) rest
  | .clashing line _ :: rest => { line, address := some free } :: benchLines free rest
  | .overflowing line _ :: rest => { line } :: benchLines free rest

/-- The line that an entry without an error puts on the bench. -/
def Entry.benchLine? : Entry → Option KeptLine
  | silent line => some { line }
  | placed line _ address => some { line, address := some address }
  | _ => none

/-- The entry has the statement of its line. -/
def Entry.Agrees : Entry → Prop
  | silent line => line.statement = none
  | placed line s _ => line.statement = some s
  | _ => True

section

variable (symbols : Symbols) (k : KeptLine)

/-- The word of a line on the bench, or its error, if it has a statement. -/
def KeptLine.outcome? : Option (Except Error Int) :=
  k.line.statement.map fun s => (s.word symbols).mapError k.line.error

/-- The word of a line on the bench. -/
def KeptLine.word? : Option Int :=
  (k.outcome? symbols).bind (·.toOption)

/-- The error of a line on the bench. -/
def KeptLine.error? : Option Error :=
  match k.outcome? symbols with
  | some (.error e) => some e
  | _ => none

/-- The line with its word, if it has one. -/
def KeptLine.encoded : KeptLine :=
  match k.word? symbols with
  | some word => { k with word := some word }
  | none => k

end

/-- Every entry of a layout has the statement of its line. -/
lemma agrees_of_mem_layoutFrom (number : Int) (free : Nat) (symbols : Symbols)
    (source : List Text) : ∀ e ∈ layoutFrom number free symbols source, e.Agrees := by
  fun_induction layoutFrom number free symbols source with
  | case1 => exact List.forall_mem_nil _
  | case2 number free symbols raw rest e hparse ih => exact List.forall_mem_cons.mpr ⟨trivial, ih⟩
  | case3 number free symbols raw rest line hparse hs ih => exact List.forall_mem_cons.mpr ⟨hs, ih⟩
  | case4 => exact List.forall_mem_cons.mpr ⟨trivial, List.forall_mem_nil _⟩
  | case5 number free symbols raw rest line hparse s hs hlt name address hclash ih =>
    exact List.forall_mem_cons.mpr ⟨trivial, ih⟩
  | case6 number free symbols raw rest line hparse s hs hlt hclash ih =>
    exact List.forall_mem_cons.mpr ⟨hs, ih⟩

lemma agrees_of_mem_layout (source : List Text) : ∀ e ∈ layout source, e.Agrees :=
  agrees_of_mem_layoutFrom 1 0 [] source

/-- The bench after a first pass without an error. -/
lemma benchLines_of_layoutErrors (free : Nat) {entries : List Entry}
    (h : layoutErrors entries = []) :
    benchLines free entries = entries.filterMap Entry.benchLine? := by
  induction entries generalizing free with
  | nil => rfl
  | cons e entries ih =>
    cases e with
    | silent line => exact congrArg (_ :: ·) (ih free h)
    | placed line s address => exact congrArg (_ :: ·) (ih (free + 1) h)
    | rejected | clashing | overflowing => exact absurd h (List.cons_ne_nil _ _)

/-- A line on the bench has the word, or the error, of its entry. -/
lemma outcome?_benchLine? (symbols : Symbols) {e : Entry} (h : e.Agrees) :
    e.benchLine?.bind (KeptLine.outcome? symbols) = e.word? symbols := by
  cases e with
  | silent line =>
    have hs : line.statement = none := h
    simp [Entry.benchLine?, KeptLine.outcome?, Entry.word?, hs]
  | placed line s address =>
    have hs : line.statement = some s := h
    cases hword : s.word symbols <;>
      simp [Entry.benchLine?, KeptLine.outcome?, Entry.word?, hs, hword, Except.mapError]
  | rejected | clashing | overflowing => rfl

/-- So it has its error in the second pass. -/
lemma error?_benchLine? (symbols : Symbols) {e : Entry} (h : e.Agrees) :
    e.benchLine?.bind (KeptLine.error? symbols) = e.encodingError? symbols := by
  have houtcome := outcome?_benchLine? symbols h
  unfold Entry.encodingError?
  rw [← houtcome]
  cases e.benchLine? <;> rfl

/-- A line on the bench stops the second pass if its error does. -/
lemma KeptLine.stop?_eq (symbols : Symbols) (k : KeptLine) :
    k.stop? symbols = (k.error? symbols).filter (·.cause.stops) := by
  unfold KeptLine.stop? KeptLine.error? KeptLine.outcome?
  cases k.line.statement with
  | none => rfl
  | some s =>
    dsimp only [Option.map_some]
    cases s.word symbols with
    | ok word => rfl
    | error cause => rfl

/-- So a line on the bench stops the pass if its entry does. -/
lemma stop?_benchLine? (symbols : Symbols) {e : Entry} (h : e.Agrees) :
    e.benchLine?.bind (KeptLine.stop? symbols) = e.stop? symbols := by
  have herror := error?_benchLine? symbols h
  unfold Entry.stop?
  rw [← herror]
  cases e.benchLine? with
  | none => rfl
  | some k => exact k.stop?_eq symbols

/-- The errors of the lines on the bench are those of the entries. -/
lemma filterMap_error?_benchLines {entries : List Entry} (symbols : Symbols)
    (h : ∀ e ∈ entries, e.Agrees) :
    (entries.filterMap Entry.benchLine?).filterMap (KeptLine.error? symbols) =
      entries.filterMap (Entry.encodingError? symbols) := by
  rw [List.filterMap_filterMap]
  exact List.filterMap_congr fun e he => error?_benchLine? symbols (h e he)

/-- Their words are those of the entries. -/
lemma filterMap_word?_benchLines {entries : List Entry} (symbols : Symbols)
    (h : ∀ e ∈ entries, e.Agrees) :
    (entries.filterMap Entry.benchLine?).filterMap (KeptLine.word? symbols) =
      wordsOf symbols entries := by
  unfold wordsOf
  rw [List.filterMap_filterMap]
  refine List.filterMap_congr fun e he => ?_
  rw [← outcome?_benchLine? symbols (h e he), Option.bind_assoc]
  rfl

/-- As many lines on the bench have a statement as there are entries with a mailbox. -/
lemma countP_benchLines {entries : List Entry} (h : ∀ e ∈ entries, e.Agrees) :
    (entries.filterMap Entry.benchLine?).countP (·.line.statement.isSome) =
      placedCount entries := by
  unfold placedCount
  rw [List.countP_filterMap]
  refine List.countP_congr fun e he => ?_
  cases e with
  | silent line =>
    have hs : line.statement = none := h _ he
    simp [Entry.benchLine?, Entry.isPlaced, hs]
  | placed line s address =>
    have hs : line.statement = some s := h _ he
    simp [Entry.benchLine?, Entry.isPlaced, hs]
  | rejected | clashing | overflowing => simp [Entry.benchLine?, Entry.isPlaced]

end Assembly

namespace Assembler

open Assembly

/-! ### The first pass -/

/-- The bench after a first pass that made these entries of the lines. -/
def laidOut (a : Assembler) (entries : List Entry) : Assembler :=
  { a with
    symbols := a.symbols ++ symbolsOf entries
    counter := a.counter + placedCount entries
    size := if entries.any Entry.isOverflowing then a.size else a.counter + placedCount entries
    errors := a.errors ++ layoutErrors entries
    lines := a.lines ++ benchLines a.counter entries }

/-- The bench after a first pass over one line more. -/
lemma laidOut_cons (a : Assembler) (e : Entry) (entries : List Entry) :
    a.laidOut (e :: entries) =
      { a with
        symbols := a.symbols ++ e.symbol?.toList ++ symbolsOf entries
        counter := a.counter + (if e.isPlaced then 1 else 0) + placedCount entries
        size := if e.isOverflowing || entries.any Entry.isOverflowing then a.size
          else a.counter + (if e.isPlaced then 1 else 0) + placedCount entries
        errors := a.errors ++ e.error?.toList ++ layoutErrors entries
        lines := a.lines ++ benchLines a.counter (e :: entries) } := by
  have hsymbols : symbolsOf (e :: entries) = e.symbol?.toList ++ symbolsOf entries := by
    unfold symbolsOf
    cases h : e.symbol? <;> simp [h]
  have herrors : layoutErrors (e :: entries) = e.error?.toList ++ layoutErrors entries := by
    unfold layoutErrors
    cases h : e.error? <;> simp [h]
  have hplaced : placedCount (e :: entries) =
      (if e.isPlaced then 1 else 0) + placedCount entries :=
    List.countP_cons.trans (Nat.add_comm _ _)
  simp only [laidOut, hsymbols, herrors, hplaced, List.any_cons, List.append_assoc, Nat.add_assoc]

section

variable (a : Assembler) (line : SourceLine) (entries : List Entry)

lemma laidOut_rejected (e : Error) :
    a.laidOut (.rejected e :: entries) = (a.report e).laidOut entries := by
  rw [laidOut_cons]
  simp [laidOut, report, benchLines, Entry.symbol?, Entry.error?, Entry.isPlaced,
    Entry.isOverflowing]

lemma laidOut_silent :
    a.laidOut (.silent line :: entries) = (a.keep { line }).laidOut entries := by
  rw [laidOut_cons]
  simp [laidOut, keep, benchLines, Entry.symbol?, Entry.error?, Entry.isPlaced,
    Entry.isOverflowing]

lemma laidOut_clashing (e : Error) : a.laidOut (.clashing line e :: entries) =
    ((a.keep { line, address := some a.counter }).report e).laidOut entries := by
  rw [laidOut_cons]
  simp [laidOut, keep, report, benchLines, Entry.symbol?, Entry.error?, Entry.isPlaced,
    Entry.isOverflowing]

lemma laidOut_placed (s : Statement) : a.laidOut (.placed line s a.counter :: entries) =
    ((a.keep { line, address := some a.counter }).assign s).laidOut entries := by
  rw [laidOut_cons]
  simp [laidOut, keep, assign, benchLines, Entry.symbol?, Entry.error?, Entry.isPlaced,
    Entry.isOverflowing]

lemma laidOut_overflowing (e : Error) :
    a.laidOut [.overflowing line e] = (a.keep { line }).report e := by
  rw [laidOut_cons]
  simp [keep, report, benchLines, Entry.symbol?, Entry.error?, Entry.isPlaced,
    Entry.isOverflowing, symbolsOf, layoutErrors, placedCount]

end

/-- The first pass adds to the bench what the layout of the lines says. -/
theorem firstPass_eq (number : Int) (a : Assembler) (source : List Text) :
    firstPass number a source =
      a.laidOut (layoutFrom number a.counter a.symbols source) := by
  -- the bench follows the table and the counter of the layout
  generalize hfree : a.counter = free
  generalize hsymbols : a.symbols = symbols
  fun_induction layoutFrom number free symbols source generalizing a with
  | case1 =>
    simp [firstPass, laidOut, symbolsOf, layoutErrors, placedCount, benchLines]
  | case2 number free symbols raw rest e hparse ih =>
    simp only [firstPass, hparse, laidOut_rejected]
    exact ih (a.report e) hfree hsymbols
  | case3 number free symbols raw rest line hparse hs ih =>
    simp only [firstPass, hparse, place, hs, laidOut_silent]
    exact ih (a.keep { line }) hfree hsymbols
  | case4 number free symbols raw rest line hparse s hs hfull =>
    simp only [firstPass, hparse, place, hs, hfree, if_pos hfull, laidOut_overflowing]
  | case5 number free symbols raw rest line hparse s hs hlt name address hclash ih =>
    simp only [firstPass, hparse, place, hs, hfree, hsymbols, if_neg hlt, hclash]
    rw [laidOut_clashing, hfree]
    exact ih _ hfree hsymbols
  | case6 number free symbols raw rest line hparse s hs hlt hclash ih =>
    simp only [firstPass, hparse, place, hs, hfree, hsymbols, if_neg hlt, hclash]
    subst hfree hsymbols
    rw [laidOut_placed]
    exact ih _ rfl rfl

/-! ### The second pass -/

/-- The second pass puts a line back on the bench with its word, counts it if it has a statement,
and reports its error. -/
lemma encode_eq (a : Assembler) (words : List Int) (k : KeptLine) : a.encode words k =
    ({ a with
        counter := a.counter + if k.line.statement.isSome then 1 else 0
        errors := a.errors ++ (k.error? a.symbols).toList
        lines := a.lines ++ [k.encoded a.symbols] },
      match k.word? a.symbols with
      | some word => words.set a.counter word
      | none => words) := by
  unfold encode
  cases hs : k.line.statement with
  | none => simp [keep, KeptLine.error?, KeptLine.encoded, KeptLine.word?, KeptLine.outcome?, hs]
  | some s =>
    cases hword : s.word a.symbols with
    | error cause =>
      simp [keep, report, KeptLine.error?, KeptLine.encoded, KeptLine.word?, KeptLine.outcome?, hs,
        hword, Except.mapError, Except.toOption]
    | ok word =>
      simp [keep, KeptLine.error?, KeptLine.encoded, KeptLine.word?, KeptLine.outcome?, hs, hword,
        Except.mapError, Except.toOption]

/-- The bench and the words when the second pass has gone through these lines, none of which stops
it. -/
def encodeOver (a : Assembler) (words : List Int) : List KeptLine → Assembler × List Int
  | [] => (a, words)
  | k :: rest => encodeOver (a.encode words k).1 (a.encode words k).2 rest

/-- It has added a word or an error for each line with a statement. -/
theorem encodeOver_fst (a : Assembler) (words : List Int) (lines : List KeptLine) :
    (encodeOver a words lines).1 =
      { a with
        counter := a.counter + lines.countP (·.line.statement.isSome)
        errors := a.errors ++ lines.filterMap (KeptLine.error? a.symbols)
        lines := a.lines ++ lines.map (KeptLine.encoded a.symbols) } := by
  induction lines generalizing a words with
  | nil => simp [encodeOver]
  | cons k lines ih =>
    unfold encodeOver
    rw [ih, encode_eq]
    dsimp only
    cases herror : k.error? a.symbols <;>
      simp [List.countP_cons, herror, Nat.add_assoc, Nat.add_comm]

/-- It goes on from there through the lines that are left. -/
lemma encodeLines_append (a : Assembler) (words : List Int) {front : List KeptLine}
    (hgo : ∀ k ∈ front, k.stop? a.symbols = none) (back : List KeptLine) :
    encodeLines a words (front ++ back) =
      encodeLines (encodeOver a words front).1 (encodeOver a words front).2 back := by
  induction front generalizing a words with
  | nil => rfl
  | cons k front ih =>
    obtain ⟨hk, hgo⟩ := List.forall_mem_cons.mp hgo
    have hsymbols : (a.encode words k).1.symbols = a.symbols := by rw [encode_eq]
    have hstep : encodeLines a words (k :: (front ++ back)) =
        encodeLines (a.encode words k).1 (a.encode words k).2 (front ++ back) := by
      rw [encodeLines, hk]
    rw [List.cons_append, hstep]
    exact ih _ _ (by rwa [hsymbols])

/-- If no line stops it, it ends with words. -/
lemma encodeLines_of_go (a : Assembler) (words : List Int) {lines : List KeptLine}
    (hgo : ∀ k ∈ lines, k.stop? a.symbols = none) :
    encodeLines a words lines =
      ((encodeOver a words lines).1, .ok (encodeOver a words lines).2) := by
  have happend := encodeLines_append a words hgo []
  rwa [List.append_nil] at happend

/-- At a line that stops it the pass ends with the error of the line, and the line and those behind
it are put back as they were. -/
theorem encodeLines_of_stop? (a : Assembler) (words : List Int) {front back : List KeptLine}
    {k : KeptLine} {e : Error} (hgo : ∀ k ∈ front, k.stop? a.symbols = none)
    (hstop : k.stop? a.symbols = some e) :
    encodeLines a words (front ++ k :: back) =
      ({ (encodeOver a words front).1 with
          lines := (encodeOver a words front).1.lines ++ k :: back }, .error e) := by
  have hsymbols : (encodeOver a words front).1.symbols = a.symbols := by rw [encodeOver_fst]
  rw [encodeLines_append a words hgo, encodeLines, hsymbols, hstop]
  dsimp only
  rw [hsymbols]

/-- The next word of an image stands behind those that it has. -/
lemma set_padded {front : List Int} (h : front.length < mailboxCount) (word : Int) :
    (padded front).set front.length word = padded (front ++ [word]) := by
  unfold padded
  obtain ⟨n, hn⟩ : ∃ n, mailboxCount - front.length = n + 1 :=
    Nat.exists_eq_succ_of_ne_zero (by omega)
  have hn' : mailboxCount - (front ++ [word]).length = n := by
    rw [List.length_append, List.length_singleton]
    omega
  rw [hn, hn', List.set_append_right _ _ (Nat.le_refl _), Nat.sub_self, List.replicate_succ,
    List.set_cons_zero, List.append_assoc, List.singleton_append]

/-- If it finds no error, the second pass fills the image from the first free mailbox on. -/
theorem encodeOver_snd (a : Assembler) (front : List Int) {lines : List KeptLine}
    (hcounter : a.counter = front.length) (hgood : ∀ k ∈ lines, k.error? a.symbols = none)
    (hfits : front.length + (lines.filterMap (KeptLine.word? a.symbols)).length ≤ mailboxCount) :
    (encodeOver a (padded front) lines).2 =
      padded (front ++ lines.filterMap (KeptLine.word? a.symbols)) := by
  induction lines generalizing a front with
  | nil => simp [encodeOver]
  | cons k lines ih =>
    obtain ⟨hk, hgood⟩ := List.forall_mem_cons.mp hgood
    unfold encodeOver
    rw [encode_eq]
    dsimp only
    cases hword : k.word? a.symbols with
    | none =>
      -- a line without a word and without an error has no statement
      have hs : k.line.statement = none := by
        unfold KeptLine.word? at hword
        unfold KeptLine.error? at hk
        unfold KeptLine.outcome? at hk hword
        cases hs : k.line.statement with
        | none => rfl
        | some s =>
          rw [hs] at hk hword
          cases hresult : s.word a.symbols <;>
            simp [hresult, Except.mapError, Except.toOption] at hk hword
      rw [List.filterMap_cons_none hword] at hfits ⊢
      exact ih _ _ (by simpa [hs] using hcounter) hgood hfits
    | some word =>
      have hs : k.line.statement.isSome = true := by
        by_contra hnone
        simp [KeptLine.word?, KeptLine.outcome?, Option.not_isSome_iff_eq_none.mp hnone] at hword
      rw [List.filterMap_cons_some hword, List.length_cons] at hfits
      rw [List.filterMap_cons_some hword, List.append_cons front word, hcounter]
      dsimp only
      rw [set_padded (by omega)]
      refine ih _ _ ?_ hgood ?_
      · simp [hs]
      · rw [List.length_append, List.length_singleton]
        dsimp only
        omega

/-! ### Listings -/

/-- A line without a word shows its text, if it is not blank. -/
lemma row?_of_word_eq_none {k : KeptLine} (h : k.word = none) : k.row? = plainRow? k.line.text := by
  unfold KeptLine.row?
  rw [h]
  cases k.address <;> rfl

/-- So does an entry without a word. -/
lemma listingRow?_of_none (e : Entry) :
    listingRow? (e, none) = e.line?.bind fun line => plainRow? line.text := by
  cases e <;> rfl

section

variable {e : Entry}

/-- The row of an entry on the bench is its row in the listing, once the second pass has encoded
it. -/
lemma row?_encoded_benchLine? (symbols : Symbols) (herror : e.error? = none) (h : e.Agrees) :
    e.benchLine?.bind (fun k => (k.encoded symbols).row?) =
      listingRow? (e, (e.word? symbols).bind (·.toOption)) := by
  have hword : e.benchLine?.bind (KeptLine.word? symbols) =
      (e.word? symbols).bind (·.toOption) := by
    rw [← outcome?_benchLine? symbols h, Option.bind_assoc]
    rfl
  cases e with
  | silent line =>
    change KeptLine.row? (KeptLine.encoded symbols { line }) = _
    change KeptLine.word? symbols { line } = none at hword
    unfold KeptLine.encoded
    rw [hword]
    rfl
  | placed line s address =>
    change KeptLine.row? (KeptLine.encoded symbols { line, address := some address }) = _
    change KeptLine.word? symbols { line, address := some address } = _ at hword
    unfold KeptLine.encoded
    rw [hword]
    cases (Entry.word? symbols (.placed line s address)).bind (·.toOption) <;> rfl
  | rejected | clashing | overflowing => cases herror

/-- Before that it is the row of an entry without a word. -/
lemma row?_benchLine? (herror : e.error? = none) :
    e.benchLine?.bind KeptLine.row? = listingRow? (e, none) := by
  cases e with
  | silent | placed => rfl
  | rejected | clashing | overflowing => cases herror

end

/-- The rows of the bench after a first pass are those of entries without a word. -/
lemma filterMap_row?_benchLines (free : Nat) (entries : List Entry) :
    (benchLines free entries).filterMap KeptLine.row? =
      entries.filterMap fun e => listingRow? (e, none) := by
  induction entries generalizing free with
  | nil => rfl
  | cons e entries ih =>
    rw [List.filterMap_cons, listingRow?_of_none]
    cases e with
    | rejected e => exact ih free
    | silent line | clashing line e | overflowing line e =>
      rw [benchLines, List.filterMap_cons, row?_of_word_eq_none rfl, ih free]
      rfl
    | placed line s address =>
      rw [benchLines, List.filterMap_cons, row?_of_word_eq_none rfl, ih (free + 1)]
      rfl

/-! ### Both passes -/

/-- What an assembler shows is what an assembly says. -/
structure Shows (a : Assembler) (b : Assembly) : Prop where
  symbols : a.symbols = b.symbols
  counter : a.counter = b.counter
  image : a.image = b.image
  size : a.size = b.size
  errors : a.errors = b.errors
  machineCode : a.machineCode = b.machineCode
  listing : a.listing = b.listing

/-- A new assembler shows the assembly of no source at all. -/
lemma shows_new : Shows {} {} := by
  constructor <;> rfl

/-- It shows so if its image is that of the assembly, its rows are those of the listing, and the
other things on the bench agree. -/
lemma Shows.of_rows {a : Assembler} {b : Assembly} (hsymbols : a.symbols = b.symbols)
    (hcounter : a.counter = b.counter) (himage : a.image = b.image) (hsize : a.size = b.size)
    (herrors : a.errors = b.errors)
    (hrows : a.lines.filterMap KeptLine.row? = b.listingRows) : Shows a b where
  symbols := hsymbols
  counter := hcounter
  image := himage
  size := hsize
  errors := herrors
  machineCode := congrArg MachineCode.render himage
  listing := by
    unfold Assembler.listing Assembly.listing
    rw [hrows, hsize, hsymbols]

/-- The bench after the first pass over a source. -/
def benchOf (source : Source) : Assembler :=
  laidOut {} (layout source.toLines)

/-- Nothing of what was on the bench is there when the first pass begins, and only what that pass
leaves on it is there when the second one begins. -/
lemma assemble_eq (a : Assembler) (source : Source) : a.assemble source =
    match (benchOf source).errors with
    | e :: _ => (benchOf source, .error e)
    | [] =>
      match (benchOf source).secondPass with
      | (encoded, .error e) => (encoded, .error e)
      | (encoded, .ok image) =>
        match encoded.errors with
        | e :: _ => (encoded, .error e)
        | [] => ({ encoded with image }, .ok image) := by
  have hfirst : firstPass 1 { a.clear with counter := 0 } source.toLines = benchOf source :=
    firstPass_eq 1 {} source.toLines
  rw [← hfirst]
  rfl

/-- The image of an assembly that fails is empty. -/
lemma image_of_failure? {b : Assembly} {e : Error} (h : b.failure? = some e) :
    b.image = List.replicate mailboxCount 0 := by
  unfold Assembly.image
  rw [h]
  rfl

section

variable {source : Source}

/-- The bench after the first pass has the labels of the assembly. -/
lemma benchOf_symbols : (benchOf source).symbols = (ofSource source).symbols := rfl

/-- It has the size of the assembly. -/
lemma benchOf_size : (benchOf source).size = (ofSource source).size := by
  unfold benchOf laidOut Assembly.size
  rw [Nat.zero_add]
  rfl

/-- If the first pass finds an error, the first error is reported, and the assembler shows the
assembly. -/
lemma shows_of_layoutErrors (h : (ofSource source).isLaidOut = false) :
    ∃ e errors, (benchOf source).errors = e :: errors ∧ (ofSource source).failure? = some e ∧
      Shows (benchOf source) (ofSource source) := by
  have herrors : (ofSource source).errors = layoutErrors (layout source.toLines) := by
    unfold Assembly.errors
    rw [h]
    rfl
  have hreported : (benchOf source).errors.head? = (ofSource source).failure? := by
    unfold failure? stop?
    rw [h, herrors]
    rfl
  have hne : (benchOf source).errors ≠ [] :=
    fun hnil => Bool.eq_false_iff.mp h (List.isEmpty_iff.mpr hnil)
  obtain ⟨e, errors, hfound⟩ := List.exists_cons_of_ne_nil hne
  have he : (ofSource source).failure? = some e := by
    rw [← hreported, hfound]
    rfl
  have hworded : (ofSource source).wordedEntries =
      (layout source.toLines).map (·, none) := by
    unfold wordedEntries
    rw [h]
    rfl
  have hcounter : (ofSource source).counter = placedCount (layout source.toLines) := by
    unfold Assembly.counter reachedEntries
    rw [h]
    rfl
  refine ⟨e, errors, hfound, he, .of_rows benchOf_symbols ((Nat.zero_add _).trans hcounter.symm)
    (image_of_failure? he).symm benchOf_size herrors.symm ?_⟩
  unfold listingRows
  rw [hworded, List.filterMap_map]
  exact filterMap_row?_benchLines 0 (layout source.toLines)

/-- If it finds none, there is a line on the bench for every entry of the layout. -/
lemma benchOf_lines (h : (ofSource source).isLaidOut = true) :
    (benchOf source).lines = (layout source.toLines).filterMap Entry.benchLine? :=
  benchLines_of_layoutErrors 0 (List.isEmpty_iff.mp h)

/-- Entries that do not stop the second pass put no line on the bench that does. -/
lemma forall_stop?_benchLines {symbols : Symbols} {entries : List Entry}
    (hagrees : ∀ e ∈ entries, e.Agrees) (hgo : ∀ e ∈ entries, e.stop? symbols = none) :
    ∀ k ∈ entries.filterMap Entry.benchLine?, k.stop? symbols = none := by
  intro k hk
  obtain ⟨e, he, hline⟩ := List.mem_filterMap.mp hk
  have hstop := stop?_benchLine? symbols (hagrees e he)
  rwa [hline, Option.bind_some, hgo e he] at hstop

/-- So no line on the bench stops it if no entry of the layout does. -/
lemma forall_stop?_benchOf {front : List Entry} (hagrees : ∀ e ∈ front, e.Agrees)
    (hgo : ∀ e ∈ front, e.stop? (ofSource source).symbols = none) :
    ∀ k ∈ front.filterMap Entry.benchLine?, k.stop? (benchOf source).symbols = none := by
  rw [benchOf_symbols]
  exact forall_stop?_benchLines hagrees hgo

/-- The second pass over the first lines on the bench. -/
lemma encodeOver_benchLines (h : (ofSource source).isLaidOut = true) (words : List Int)
    {front : List Entry} (hagrees : ∀ e ∈ front, e.Agrees) :
    (encodeOver { benchOf source with counter := 0, lines := [] } words
        (front.filterMap Entry.benchLine?)).1 =
      { benchOf source with
        counter := placedCount front
        errors := front.filterMap (Entry.encodingError? (ofSource source).symbols)
        lines := (front.filterMap Entry.benchLine?).map
          (KeptLine.encoded (ofSource source).symbols) } := by
  have hreported : (benchOf source).errors = [] := List.isEmpty_iff.mp h
  rw [encodeOver_fst, countP_benchLines hagrees]
  dsimp only
  rw [hreported, benchOf_symbols, filterMap_error?_benchLines _ hagrees]
  simp only [List.nil_append, Nat.zero_add]

/-- A layout in which the second pass stops: what it gets through, the entry that stops it with its
line on the bench, and the rest. -/
lemma exists_stop (h : (ofSource source).isLaidOut = true) {error : Error}
    (hstop : (ofSource source).stop? = some error) :
    ∃ (before after : List Entry) (e : Entry) (k : KeptLine),
      layout source.toLines = before ++ e :: after ∧ (ofSource source).reachedEntries = before ∧
        (∀ e ∈ before, e.stop? (ofSource source).symbols = none) ∧ e.benchLine? = some k ∧
          k.stop? (ofSource source).symbols = some error := by
  unfold Assembly.stop? at hstop
  unfold reachedEntries
  rw [if_pos h] at hstop ⊢
  obtain ⟨-, -, hfind⟩ | ⟨before, after, e, error', hentries, hgo, hat, hreached, hfind⟩ :=
    stop_cases (ofSource source).symbols (layout source.toLines)
  · cases hfind.symm.trans hstop
  · obtain rfl : error' = error := Option.some.inj (hfind.symm.trans hstop)
    have hagrees : e.Agrees :=
      agrees_of_mem_layout source.toLines e (by rw [hentries]; simp)
    rw [← stop?_benchLine? _ hagrees, Option.bind_eq_some_iff] at hat
    obtain ⟨k, hline, hk⟩ := hat
    exact ⟨before, after, e, k, hentries, hreached, hgo, hline, hk⟩

/-- A layout in which the second pass does not stop is reached to its end. -/
lemma reachedEntries_of_stop? (h : (ofSource source).isLaidOut = true)
    (hstop : (ofSource source).stop? = none) :
    (∀ e ∈ layout source.toLines, e.stop? (ofSource source).symbols = none) ∧
      (ofSource source).reachedEntries = layout source.toLines := by
  unfold Assembly.stop? at hstop
  unfold reachedEntries
  rw [if_pos h] at hstop ⊢
  have hgo := List.findSome?_eq_none_iff.mp hstop
  exact ⟨hgo, reached_eq_self_iff.mpr hgo⟩

/-- What the second pass gets through of the lines on the bench is what it gets through of the
layout: these lines get their words and their errors, and the others stay as they were. -/
lemma secondPass_fst (h : (ofSource source).isLaidOut = true) :
    (benchOf source).secondPass.1 =
      { benchOf source with
        counter := (ofSource source).counter
        errors := (ofSource source).errors
        lines := ((ofSource source).reachedEntries.filterMap Entry.benchLine?).map
            (KeptLine.encoded (ofSource source).symbols) ++
          ((layout source.toLines).drop (ofSource source).reachedEntries.length).filterMap
            Entry.benchLine? } := by
  have hagrees := agrees_of_mem_layout source.toLines
  have herrors : (ofSource source).errors = (ofSource source).reachedEntries.filterMap
      (Entry.encodingError? (ofSource source).symbols) := by
    unfold Assembly.errors reachedEntries
    rw [if_pos h, if_pos h]
    rfl
  unfold secondPass Assembly.counter
  rw [benchOf_lines h, herrors]
  cases hstop : (ofSource source).stop? with
  | none =>
    obtain ⟨hgo, hreached⟩ := reachedEntries_of_stop? h hstop
    rw [hreached, List.drop_length,
      encodeLines_of_go { benchOf source with counter := 0, lines := [] } _
        (forall_stop?_benchOf hagrees hgo), encodeOver_benchLines h _ hagrees]
    simp
  | some error =>
    obtain ⟨before, after, e, k, hentries, hreached, hgo, hline, hk⟩ := exists_stop h hstop
    have hfront : ∀ e ∈ before, e.Agrees := fun e he =>
      hagrees e (hentries ▸ List.mem_append_left _ he)
    rw [hreached, hentries, List.drop_left, List.filterMap_append,
      List.filterMap_cons_some hline,
      encodeLines_of_stop? { benchOf source with counter := 0, lines := [] } _
        (forall_stop?_benchOf hfront hgo) (benchOf_symbols ▸ hk)]
    dsimp only
    rw [encodeOver_benchLines h _ hfront]

/-- It ends with the error of the entry that stops it. -/
lemma secondPass_snd_of_stop? (h : (ofSource source).isLaidOut = true) {error : Error}
    (hstop : (ofSource source).stop? = some error) :
    (benchOf source).secondPass.2 = .error error := by
  obtain ⟨before, after, e, k, hentries, -, hgo, hline, hk⟩ := exists_stop h hstop
  have hfront : ∀ e ∈ before, e.Agrees := fun e he =>
    agrees_of_mem_layout source.toLines e (hentries ▸ List.mem_append_left _ he)
  unfold secondPass
  rw [benchOf_lines h, hentries, List.filterMap_append, List.filterMap_cons_some hline,
    encodeLines_of_stop? { benchOf source with counter := 0, lines := [] } _
      (forall_stop?_benchOf hfront hgo) (benchOf_symbols ▸ hk)]

/-- Otherwise it ends with words, which are the image of the assembly if no error was found. -/
lemma secondPass_snd_of_not_stop? (h : (ofSource source).isLaidOut = true)
    (hstop : (ofSource source).stop? = none) :
    ∃ words, (benchOf source).secondPass.2 = .ok words ∧
      ((ofSource source).failure? = none → words = (ofSource source).image) := by
  have hagrees := agrees_of_mem_layout source.toLines
  obtain ⟨hgo, -⟩ := reachedEntries_of_stop? h hstop
  unfold secondPass
  rw [benchOf_lines h]
  have hended := encodeLines_of_go { benchOf source with counter := 0, lines := [] }
    (List.replicate mailboxCount 0) (forall_stop?_benchOf hagrees hgo)
  refine ⟨_, congrArg Prod.snd hended, fun hfailure => ?_⟩
  have hclean : ∀ e ∈ layout source.toLines,
      e.encodingError? (ofSource source).symbols = none :=
    (forall_encodingError?_eq_none_iff _ _).mpr ((failure?_eq_none_iff _).mp hfailure).2
  have hlength := length_placed_le 1 [] source.toLines (Nat.zero_le mailboxCount)
  rw [image_eq_of_failure? hfailure, ← List.nil_append (wordsOf _ _)]
  have hwords := filterMap_word?_benchLines (ofSource source).symbols hagrees
  refine (encodeOver_snd _ [] rfl ?_ ?_).trans (congrArg (fun words => padded ([] ++ words)) hwords)
  · rw [← List.filterMap_eq_nil_iff]
    refine (filterMap_error?_benchLines _ hagrees).trans ?_
    exact List.filterMap_eq_nil_iff.mpr hclean
  · dsimp only
    rw [benchOf_symbols, hwords, wordsOf_eq]
    have hle := List.length_filterMap_le (fun s => (s.word (ofSource source).symbols).toOption)
      (placedStatements (layout source.toLines))
    exact (Nat.add_le_add_left hle 0).trans hlength

/-- After the second pass an assembler shows the assembly, with its image on the bench. -/
lemma shows_of_isLaidOut (h : (ofSource source).isLaidOut = true) :
    Shows { (benchOf source).secondPass.1 with image := (ofSource source).image }
      (ofSource source) := by
  have hagrees := agrees_of_mem_layout source.toLines
  have hlayout : ∀ e ∈ layout source.toLines, e.error? = none :=
    List.filterMap_eq_nil_iff.mp (List.isEmpty_iff.mp h)
  have hreached : ∀ e ∈ (ofSource source).reachedEntries, e ∈ layout source.toLines := by
    unfold reachedEntries
    rw [if_pos h]
    exact fun e he => List.takeWhile_subset _ he
  have hworded : (ofSource source).wordedEntries = (ofSource source).reachedEntries.map
      (fun e => (e, (e.word? (ofSource source).symbols).bind (·.toOption))) ++
        ((layout source.toLines).drop (ofSource source).reachedEntries.length).map (·, none) := by
    unfold wordedEntries
    rw [if_pos h]
    rfl
  rw [secondPass_fst h]
  refine .of_rows benchOf_symbols rfl rfl benchOf_size rfl ?_
  dsimp only
  unfold listingRows
  rw [hworded, List.filterMap_append, List.filterMap_append, List.filterMap_map,
    List.filterMap_filterMap, List.filterMap_map, List.filterMap_filterMap, List.filterMap_map]
  congr 1
  · refine List.filterMap_congr fun e he => ?_
    exact row?_encoded_benchLine? _ (hlayout e (hreached e he)) (hagrees e (hreached e he))
  · refine List.filterMap_congr fun e he => ?_
    exact row?_benchLine? (hlayout e (List.mem_of_mem_drop he))

/-- If the assembly failed in the second pass, the image on the bench is still the empty one, and so
is that of the assembly. -/
lemma shows_of_failure? (h : (ofSource source).isLaidOut = true) {e : Error}
    (hfailure : (ofSource source).failure? = some e) :
    Shows (benchOf source).secondPass.1 (ofSource source) := by
  have hshows := shows_of_isLaidOut h
  rw [secondPass_fst h] at hshows ⊢
  rwa [image_of_failure? hfailure] at hshows

end

/-- What an assembler makes of a source is the assembly of the source, whatever was on its bench
before. -/
theorem shows_assemble (a : Assembler) (source : Source) :
    (a.assemble source).2 = LittleMan.assemble source ∧
      Shows (a.assemble source).1 (ofSource source) := by
  unfold LittleMan.assemble Assembly.result
  rw [assemble_eq]
  cases hlaid : (ofSource source).isLaidOut with
  | false =>
    obtain ⟨e, errors, hfound, hfailure, hshows⟩ := shows_of_layoutErrors hlaid
    rw [hfound, hfailure]
    exact ⟨rfl, hshows⟩
  | true =>
    have hbench : (benchOf source).errors = [] := List.isEmpty_iff.mp hlaid
    have hencoded : (benchOf source).secondPass.1.errors = (ofSource source).errors := by
      rw [secondPass_fst hlaid]
    rw [hbench]
    dsimp only
    generalize hsecond : (benchOf source).secondPass = ended
    obtain ⟨encoded, outcome⟩ := ended
    obtain rfl : (benchOf source).secondPass.1 = encoded := congrArg Prod.fst hsecond
    obtain rfl : (benchOf source).secondPass.2 = outcome := congrArg Prod.snd hsecond
    cases hstop : (ofSource source).stop? with
    | some e =>
      have hfailure : (ofSource source).failure? = some e := by
        unfold failure?
        rw [hstop, Option.some_or]
      rw [secondPass_snd_of_stop? hlaid hstop, hfailure]
      exact ⟨rfl, shows_of_failure? hlaid hfailure⟩
    | none =>
      have hfailure : (ofSource source).failure? = (ofSource source).errors.head? := by
        unfold failure?
        rw [hstop, Option.none_or]
      obtain ⟨words, hwords, himage⟩ := secondPass_snd_of_not_stop? hlaid hstop
      rw [← hencoded] at hfailure
      rw [hwords, hfailure]
      dsimp only
      cases herrors : (benchOf source).secondPass.1.errors with
      | nil =>
        rw [herrors] at hfailure
        obtain rfl := himage hfailure
        have hshows := shows_of_isLaidOut hlaid
        dsimp only at hshows
        rw [herrors] at hshows
        exact ⟨rfl, hshows⟩
      | cons e errors =>
        rw [herrors] at hfailure
        exact ⟨rfl, shows_of_failure? hlaid hfailure⟩

/-! ### Sessions -/

/-- An assembler that shows an assembly answers every request as the assembly does, and shows it
afterwards, too. -/
lemma Shows.handle {a : Assembler} {b : Assembly} (h : Shows a b) (request : Request) :
    (a.handle request).2 = (b.handle request).2 ∧
      Shows (a.handle request).1 (b.handle request).1 := by
  cases request with
  | assemble source =>
    obtain ⟨hresult, hshows⟩ := a.shows_assemble source
    exact ⟨congrArg (Except.map Reply.words) hresult, hshows⟩
  | machineCode => exact ⟨congrArg (Except.ok ∘ Reply.text) h.machineCode, h⟩
  | listing => exact ⟨congrArg (Except.ok ∘ Reply.text) h.listing, h⟩
  | image => exact ⟨congrArg (Except.ok ∘ Reply.words) h.image, h⟩

/-- So it is after every session. -/
lemma Shows.session {a : Assembler} {b : Assembly} (h : Shows a b) (requests : List Request) :
    Shows (a.session requests) (b.session requests) := by
  induction requests generalizing a b with
  | nil => exact h
  | cons request requests ih => exact ih (h.handle request).2

/-- An assembler carries nothing from one source to the next. After every session, be it that its
sources assembled or failed in the first or in the second pass, it makes of the next source what a
new assembler makes of it, in its answer and in everything that is on the bench afterwards. This is
the image or the error of the source, and the bench shows the assembly of the source. And at any
moment an assembler answers as if the last source had been the only one. -/
theorem session_reused (requests : List Request) (source : Source) :
    (session {} requests).assemble source = ({} : Assembler).assemble source ∧
      ((session {} requests).assemble source).2 = LittleMan.assemble source ∧
      Shows ((session {} requests).assemble source).1 (ofSource source) ∧
      ∀ request, ((session {} requests).handle request).2 =
        ((Assembly.session {} requests).handle request).2 := by
  obtain ⟨hresult, hshows⟩ := (session {} requests).shows_assemble source
  exact ⟨rfl, hresult, hshows, fun request => ((shows_new.session requests).handle request).1⟩

end Assembler

end LittleMan
