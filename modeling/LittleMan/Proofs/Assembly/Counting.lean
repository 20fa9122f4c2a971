import LittleMan.Proofs.Assembly.Assembler
import LittleMan.Proofs.Assembly.Diagnosis
import Mathlib.Data.Finset.Card

/-!
# Mailboxes and lines

How the first pass counts. Every statement is to take one mailbox, so that the `k`-th one stands in
mailbox `k`. But the line of a label that is defined already takes none, and from there on the count
falls behind: a statement stands in the mailbox whose number is that of the statements before it, of
which those with the same label count once (`distinctCount`).

What the pass lays out for a source that can be read is told by `Lays`, statement by statement; that
it does so is the only induction over the lines (`lays_layoutFrom`). The numbers on the lines, in
the table and in the errors are read off it (`CountsBy`). The count is that of the statements
exactly if no line that repeats a label has a statement behind it for which the pass has a mailbox
left (`assemble_counts`).
-/

namespace LittleMan

namespace Assembly

/-! ### Statements and labels -/

/-- The number of statements, of which those with the same label count once. -/
def distinctCount (program : List Statement) : Nat :=
  program.countP (·.label.isNone) + (labels program).toFinset.card

/-- The first statement with a label. -/
def definedAt? (program : List Statement) (name : Text) : Option Nat :=
  program.findIdx? (·.label == some name)

/-- A statement of a program has the label of one before it. -/
def Repeats (program : List Statement) (k : Nat) : Prop :=
  ∃ s name, program[k]? = some s ∧ s.label = some name ∧ name ∈ labels (program.take k)

section

variable {front program : List Statement} {s : Statement} {name : Text} {k : Nat}

/-- The labels of a program with one statement more behind it. -/
lemma labels_concat (front : List Statement) (s : Statement) :
    labels (front ++ [s]) = labels front ++ s.label.toList := by
  unfold labels
  rw [List.filterMap_append]
  cases hlabel : s.label <;> simp [hlabel]

/-- A label is defined somewhere exactly if it is a label of the program. -/
lemma definedAt?_eq_none_iff : definedAt? program name = none ↔ name ∉ labels program := by
  unfold definedAt? labels
  simp [List.findIdx?_eq_none_iff]

/-- A statement with a label of its own counts. -/
lemma distinctCount_concat_of_fresh (h : ∀ name, s.label = some name → name ∉ labels front) :
    distinctCount (front ++ [s]) = distinctCount front + 1 := by
  unfold distinctCount
  rw [labels_concat, List.countP_append, List.toFinset_append]
  cases hlabel : s.label with
  | none => simp [hlabel, Nat.add_right_comm]
  | some name =>
    have hnew : name ∉ (labels front).toFinset := fun hmem =>
      h name hlabel (List.mem_toFinset.mp hmem)
    simp [hlabel, hnew, Nat.add_assoc]

/-- A statement with a label that is there already does not count. -/
lemma distinctCount_concat_of_mem (hlabel : s.label = some name) (h : name ∈ labels front) :
    distinctCount (front ++ [s]) = distinctCount front := by
  have hunion : (labels front).toFinset ∪ {name} = (labels front).toFinset :=
    Finset.union_eq_left.mpr (by simpa using h)
  unfold distinctCount
  rw [labels_concat, List.countP_append, List.toFinset_append, hlabel]
  simp [hlabel, hunion]

/-- What stands behind does not take anything from the count. -/
lemma distinctCount_le_append (front rest : List Statement) :
    distinctCount front ≤ distinctCount (front ++ rest) := by
  have hsubset : (labels front).toFinset ⊆ (labels (front ++ rest)).toFinset := by
    unfold labels
    rw [List.filterMap_append, List.toFinset_append]
    exact Finset.subset_union_left
  unfold distinctCount
  rw [List.countP_append]
  exact Nat.add_le_add (Nat.le_add_right _ _) (Finset.card_le_card hsubset)

/-- The statement that repeats a label is one of the program. -/
lemma Repeats.lt_length (h : Repeats program k) : k < program.length := by
  obtain ⟨s, -, hs, -⟩ := h
  exact (List.getElem?_eq_some_iff.mp hs).1

/-- If a statement repeats a label, there is a first one that does. -/
lemma Repeats.exists_first (h : Repeats program k) :
    ∃ j ≤ k, Repeats program j ∧ ∀ i < j, ¬ Repeats program i := by
  induction k using Nat.strong_induction_on with
  | _ k ih =>
    by_cases hearlier : ∃ i < k, Repeats program i
    · obtain ⟨i, hi, hrepeats⟩ := hearlier
      obtain ⟨j, hj, hfirst⟩ := ih i hi hrepeats
      exact ⟨j, by omega, hfirst⟩
    · exact ⟨k, le_rfl, h, fun i hi hrepeats => hearlier ⟨i, hi, hrepeats⟩⟩

/-- The count goes on by one at each statement, unless it repeats a label. -/
lemma distinctCount_take_succ (program : List Statement) {k : Nat} (hk : k < program.length) :
    (Repeats program k ∧
        distinctCount (program.take (k + 1)) = distinctCount (program.take k)) ∨
      (¬ Repeats program k ∧
        distinctCount (program.take (k + 1)) = distinctCount (program.take k) + 1) := by
  have hget : program[k]? = some program[k] := List.getElem?_eq_getElem hk
  rw [List.take_succ_eq_append_getElem hk]
  by_cases hrepeats : Repeats program k
  · obtain ⟨s, name, hs, hlabel, hmem⟩ := id hrepeats
    obtain rfl := Option.some.inj (hget.symm.trans hs)
    exact .inl ⟨hrepeats, distinctCount_concat_of_mem hlabel hmem⟩
  · refine .inr ⟨hrepeats, distinctCount_concat_of_fresh fun name hlabel hmem => ?_⟩
    exact hrepeats ⟨program[k], name, hget, hlabel, hmem⟩

/-- The count is monotone along the program. -/
lemma distinctCount_take_mono (program : List Statement) {j k : Nat} (h : j ≤ k) :
    distinctCount (program.take j) ≤ distinctCount (program.take k) := by
  have hsplit := List.take_append_drop j (program.take k)
  rw [List.take_take, Nat.min_eq_left h] at hsplit
  rw [← hsplit]
  exact distinctCount_le_append _ _

/-- As long as no label is repeated all statements count. -/
lemma distinctCount_take_eq (hk : k ≤ program.length) (h : ∀ j < k, ¬ Repeats program j) :
    distinctCount (program.take k) = k := by
  induction k with
  | zero => rfl
  | succ k ih =>
    have hbefore := ih (by omega) fun j hj => h j (by omega)
    obtain ⟨hrepeats, -⟩ | ⟨-, hsucc⟩ := distinctCount_take_succ program hk
    · exact absurd hrepeats (h k (Nat.lt_succ_self k))
    · rw [hsucc, hbefore]

end

/-! ### Statement by statement -/

/-- What the first pass lays out for the statements that are left, behind the statements `front`. -/
inductive Lays : List Statement → List Statement → List Entry → Prop where
  | done (front : List Statement) : Lays front [] []
  | silent {front rest : List Statement} {entries : List Entry} (line : SourceLine)
      (statement : line.statement = none) (tail : Lays front rest entries) :
      Lays front rest (.silent line :: entries)
  /-- A statement with a label of its own, or without one, takes a mailbox. -/
  | placed {front rest : List Statement} {entries : List Entry} {s : Statement} (line : SourceLine)
      (statement : line.statement = some s) (fits : distinctCount front < mailboxCount)
      (fresh : ∀ name, s.label = some name → name ∉ labels front)
      (tail : Lays (front ++ [s]) rest entries) :
      Lays front (s :: rest) (.placed line s (distinctCount front) :: entries)
  /-- A statement whose label is defined already takes none. -/
  | clashing {front rest : List Statement} {entries : List Entry} {s : Statement}
      (line : SourceLine) (name : Text) (k : Nat) (statement : line.statement = some s)
      (fits : distinctCount front < mailboxCount) (label : s.label = some name)
      (defined : definedAt? front name = some k) (tail : Lays (front ++ [s]) rest entries) :
      Lays front (s :: rest)
        (.clashing line (line.error (.duplicateLabel name (distinctCount (front.take k)))) ::
          entries)
  /-- For a statement behind a hundred that count there is none left. -/
  | overflowing {front rest : List Statement} {s : Statement} (line : SourceLine)
      (statement : line.statement = some s) (full : mailboxCount ≤ distinctCount front) :
      Lays front (s :: rest) [.overflowing line (line.error .programTooLarge)]

section

variable {front rest program : List Statement} {s : Statement} {entries : List Entry} {name : Text}
  {k : Nat}

/-- A label that is defined stays defined where it is. -/
lemma definedAt?_append (h : definedAt? front name = some k) (rest : List Statement) :
    definedAt? (front ++ rest) name = some k := by
  unfold definedAt? at h ⊢
  rw [List.findIdx?_append, h]
  rfl

/-- A new label is defined by its statement. -/
lemma definedAt?_append_of_fresh (hlabel : s.label = some name) (h : name ∉ labels front)
    (rest : List Statement) : definedAt? (front ++ s :: rest) name = some front.length := by
  have hnone : front.findIdx? (·.label == some name) = none := definedAt?_eq_none_iff.mpr h
  unfold definedAt?
  rw [List.findIdx?_append, hnone, List.findIdx?_cons]
  simp [hlabel]

/-- A label is defined by a statement of the program. -/
lemma lt_length_of_definedAt? (h : definedAt? program name = some k) : k < program.length :=
  (List.findIdx?_eq_some_iff_getElem.mp h).1

/-- A label that is defined somewhere is a label of the program. -/
lemma mem_labels_of_definedAt? (h : definedAt? program name = some k) : name ∈ labels program := by
  by_contra hnot
  cases h.symm.trans (definedAt?_eq_none_iff.mpr hnot)

/-- The table of labels has the mailboxes of the statements that define them. -/
def Tabulates (symbols : Symbols) (front : List Statement) : Prop :=
  ∀ name, symbols.lookup name =
    (definedAt? front name).map fun k => distinctCount (front.take k)

/-- The mailbox of a statement does not depend on those behind it. -/
lemma map_definedAt?_append (h : name ∈ labels front) (rest : List Statement) :
    (definedAt? (front ++ rest) name).map (fun k => distinctCount ((front ++ rest).take k)) =
      (definedAt? front name).map fun k => distinctCount (front.take k) := by
  obtain ⟨k, hk⟩ := Option.ne_none_iff_exists'.mp (mt definedAt?_eq_none_iff.mp (not_not.mpr h))
  rw [definedAt?_append hk, hk, Option.map_some, Option.map_some,
    List.take_append_of_le_length (lt_length_of_definedAt? hk).le]

/-- A statement whose label is there already adds nothing to the table. -/
lemma Tabulates.concat_of_mem {symbols : Symbols} (h : Tabulates symbols front)
    (hlabel : s.label = some name) (hmem : name ∈ labels front) :
    Tabulates symbols (front ++ [s]) := by
  intro name'
  by_cases hmem' : name' ∈ labels front
  · rw [h name', map_definedAt?_append hmem']
  · have hnot : name' ∉ labels (front ++ [s]) := by
      rw [labels_concat, hlabel]
      simp only [Option.toList_some, List.mem_append, List.mem_singleton, not_or]
      exact ⟨hmem', fun heq => hmem' (heq ▸ hmem)⟩
    rw [h name', definedAt?_eq_none_iff.mpr hmem', definedAt?_eq_none_iff.mpr hnot]
    rfl

/-- A label is added with the mailbox of its statement. -/
lemma Tabulates.concat {symbols : Symbols} (h : Tabulates symbols front) (s : Statement) :
    Tabulates (symbols ++ (s.label.map (·, distinctCount front)).toList) (front ++ [s]) := by
  intro name
  rw [List.lookup_append, h name]
  by_cases hmem : name ∈ labels front
  · obtain ⟨k, hk⟩ :=
      Option.ne_none_iff_exists'.mp (mt definedAt?_eq_none_iff.mp (not_not.mpr hmem))
    rw [map_definedAt?_append hmem, hk]
    rfl
  · rw [definedAt?_eq_none_iff.mpr hmem, Option.map_none, Option.none_or]
    by_cases hlabel : s.label = some name
    · rw [definedAt?_append_of_fresh hlabel hmem, hlabel]
      simp
    · have hnot : name ∉ labels (front ++ [s]) := by
        rw [labels_concat]
        simpa [hmem] using hlabel
      rw [definedAt?_eq_none_iff.mpr hnot]
      cases hlabel' : s.label with
      | none => rfl
      | some name' =>
        have hne : name ≠ name' := fun heq => hlabel (heq ▸ hlabel')
        simp [hne]

/-- A statement clashes with the table of labels if its label is defined already. -/
lemma Tabulates.clash?_cases {symbols : Symbols} (h : Tabulates symbols front) (s : Statement) :
    (s.clash? symbols = none ∧ ∀ name, s.label = some name → name ∉ labels front) ∨
      ∃ name k, s.clash? symbols = some (name, distinctCount (front.take k)) ∧
        s.label = some name ∧ definedAt? front name = some k := by
  cases hclash : s.clash? symbols with
  | none =>
    refine .inl ⟨rfl, fun name hlabel => ?_⟩
    have hfree := (clash?_eq_none_iff s symbols).mp hclash name hlabel
    rw [h name, Option.map_eq_none_iff] at hfree
    exact definedAt?_eq_none_iff.mp hfree
  | some found =>
    obtain ⟨name, address⟩ := found
    obtain ⟨hlabel, hlookup⟩ := label_lookup_of_clash? hclash
    rw [h name, Option.map_eq_some_iff] at hlookup
    obtain ⟨k, hk, rfl⟩ := hlookup
    exact .inr ⟨name, k, rfl, hlabel, hk⟩

/-- The first pass goes through a source that can be read statement by statement. -/
theorem lays_layoutFrom (number : Int) {free : Nat} {symbols : Symbols} {source : List Text}
    (hfree : free = distinctCount front) (hsymbols : Tabulates symbols front)
    (h : ReadsAs source rest) : Lays front rest (layoutFrom number free symbols source) := by
  fun_induction layoutFrom number free symbols source generalizing front rest with
  | case1 =>
    obtain rfl : rest = [] := List.forall₂_nil_left_iff.mp h
    exact .done front
  | case2 number free symbols raw source e hparse ih =>
    obtain ⟨hne, hnot⟩ := not_reads_of_parse hparse
    obtain ⟨s, -, hs, -⟩ := (readsAs_cons_of_code hne source rest).mp h
    exact absurd hs (hnot s)
  | case3 number free symbols raw source line hparse hs ih =>
    have hblank := lineFields_eq_nil_of_parse hparse hs
    exact .silent line hs (ih hfree hsymbols ((readsAs_cons_of_blank hblank source rest).mp h))
  | case4 number free symbols raw source line hparse s hs hfull =>
    have hreads := reads_of_parse hparse hs
    obtain ⟨s', rest, hs', -, rfl⟩ := (readsAs_cons_of_code hreads.ne_nil source rest).mp h
    obtain rfl := hreads.unique hs'
    exact .overflowing line hs (hfree ▸ hfull)
  | case5 number free symbols raw source line hparse s hs hlt name address hclash ih =>
    have hreads := reads_of_parse hparse hs
    obtain ⟨s', rest, hs', hrest, rfl⟩ := (readsAs_cons_of_code hreads.ne_nil source rest).mp h
    obtain rfl := hreads.unique hs'
    obtain ⟨hnone, -⟩ | ⟨name', k, hsome, hlabel, hdefined⟩ := hsymbols.clash?_cases s
    · cases hclash.symm.trans hnone
    · obtain ⟨rfl, rfl⟩ := Prod.mk.inj (Option.some.inj (hclash.symm.trans hsome))
      have hmem := mem_labels_of_definedAt? hdefined
      refine .clashing line name k hs (by omega) hlabel hdefined ?_
      refine ih ?_ (hsymbols.concat_of_mem hlabel hmem) hrest
      rw [distinctCount_concat_of_mem hlabel hmem, hfree]
  | case6 number free symbols raw source line hparse s hs hlt hclash ih =>
    have hreads := reads_of_parse hparse hs
    obtain ⟨s', rest, hs', hrest, rfl⟩ := (readsAs_cons_of_code hreads.ne_nil source rest).mp h
    obtain rfl := hreads.unique hs'
    obtain ⟨-, hfresh⟩ | ⟨name', k, hsome, -, -⟩ := hsymbols.clash?_cases s
    · subst hfree
      refine .placed line hs (by omega) hfresh ?_
      exact ih (distinctCount_concat_of_fresh hfresh).symm (hsymbols.concat s) hrest
    · cases hclash.symm.trans hsome

end

/-! ### Numbers on lines, in the table and in errors -/

/-- A line on the bench with its number. -/
def KeptLine.numbered (kept : KeptLine) : SourceLine × Option Nat :=
  (kept.line, kept.address)

/-- The lines on the bench that have a statement. -/
def statementLines (lines : List KeptLine) : List KeptLine :=
  lines.filter (·.line.statement.isSome)

/-- Lines on the bench stand for statements and have their numbers, the statements `front` being
before them. -/
structure Numbered (front rest : List Statement) (lines : List KeptLine) : Prop where
  /-- A line has its statement, and its number, if it has one, is that of a mailbox. -/
  line : ∀ (k : Nat) (kept : KeptLine), lines[k]? = some kept →
    k < rest.length ∧ rest[k]? = kept.line.statement ∧ ∀ address, kept.address = some address →
      address = distinctCount (front ++ rest.take k) ∧ address < mailboxCount
  /-- Every statement has its line, up to one for which there is no mailbox left. -/
  reached : ∀ k < rest.length, (∀ j ≤ k, distinctCount (front ++ rest.take j) < mailboxCount) →
    ∃ kept, lines[k]? = some kept ∧ kept.address = some (distinctCount (front ++ rest.take k))

section

variable {front rest : List Statement} {s : Statement} {entries : List Entry}

/-- A line with the next number comes before others. -/
lemma Numbered.cons {lines : List KeptLine} {head : KeptLine} (hhead : head.line.statement = some s)
    (haddress : head.address = some (distinctCount front))
    (hfits : distinctCount front < mailboxCount)
    (h : Numbered (front ++ [s]) rest lines) : Numbered front (s :: rest) (head :: lines) := by
  have hcount (j : Nat) : front ++ (s :: rest).take (j + 1) = front ++ [s] ++ rest.take j := by simp
  constructor
  · intro k kept hkept
    cases k with
    | zero =>
      obtain rfl := Option.some.inj hkept
      refine ⟨Nat.succ_pos _, hhead.symm, fun address h => ?_⟩
      obtain rfl := Option.some.inj (haddress.symm.trans h)
      rw [List.take_zero, List.append_nil]
      exact ⟨rfl, hfits⟩
    | succ k =>
      obtain ⟨hlt, hline, hnumber⟩ := h.line k kept hkept
      rw [hcount]
      exact ⟨Nat.succ_lt_succ hlt, hline, hnumber⟩
  · intro k hk hbefore
    cases k with
    | zero =>
      refine ⟨head, rfl, ?_⟩
      rw [haddress, List.take_zero, List.append_nil]
    | succ k =>
      obtain ⟨kept, hkept, hnumber⟩ := h.reached k (Nat.lt_of_succ_lt_succ hk) fun j hj => by
        rw [← hcount]
        exact hbefore (j + 1) (Nat.succ_le_succ hj)
      refine ⟨kept, hkept, ?_⟩
      rw [hcount]
      exact hnumber

/-- The first pass puts the statements on the bench with their numbers. -/
theorem Lays.numbered (h : Lays front rest entries) :
    Numbered front rest (statementLines (benchLines (distinctCount front) entries)) := by
  have hcode {line : SourceLine} {s : Statement} (hs : line.statement = some s)
      (address : Option Nat) (lines : List KeptLine) :
      statementLines ({ line, address } :: lines) = { line, address } :: statementLines lines :=
    List.filter_cons_of_pos (by simp [hs])
  induction h with
  | done front =>
    refine ⟨fun k kept hkept => ?_, fun k hk => absurd hk (Nat.not_lt_zero k)⟩
    cases hkept
  | silent line statement tail ih =>
    have hskip (lines : List KeptLine) :
        statementLines ({ line } :: lines) = statementLines lines :=
      List.filter_cons_of_neg (by simp [statement])
    rwa [benchLines, hskip]
  | placed line statement fits fresh tail ih =>
    rw [distinctCount_concat_of_fresh fresh] at ih
    rw [benchLines, hcode statement]
    exact ih.cons statement rfl fits
  | clashing line name k statement fits label defined tail ih =>
    rw [distinctCount_concat_of_mem label (mem_labels_of_definedAt? defined)] at ih
    rw [benchLines, hcode statement]
    exact ih.cons statement rfl fits
  | @overflowing front rest s line statement full =>
    rw [benchLines, hcode statement]
    constructor
    · intro k kept hkept
      cases k with
      | zero =>
        obtain rfl := Option.some.inj hkept
        refine ⟨Nat.succ_pos _, statement.symm, fun address haddress => ?_⟩
        cases haddress
      | succ k => cases hkept
    · intro k hk hbefore
      have hfits := hbefore 0 (Nat.zero_le k)
      rw [List.take_zero, List.append_nil] at hfits
      omega

/-- A label that the first pass puts into the table has the mailbox of the statement that defines
it. -/
lemma Lays.symbol (h : Lays front rest entries) :
    ∀ symbol ∈ symbolsOf entries, ∃ k, definedAt? (front ++ rest) symbol.1 = some k ∧
      symbol.2 = distinctCount ((front ++ rest).take k) ∧ symbol.2 < mailboxCount := by
  induction h with
  | done => exact List.forall_mem_nil _
  | silent line statement tail ih => exact ih
  | @placed front rest entries s line statement fits fresh tail ih =>
    rw [← List.append_cons] at ih
    cases hlabel : s.label with
    | none =>
      have hskip :
          symbolsOf (.placed line s (distinctCount front) :: entries) = symbolsOf entries :=
        List.filterMap_cons_none (by rw [Entry.symbol?, hlabel]; rfl)
      rwa [hskip]
    | some name =>
      have hcons : symbolsOf (.placed line s (distinctCount front) :: entries) =
          (name, distinctCount front) :: symbolsOf entries :=
        List.filterMap_cons_some (by rw [Entry.symbol?, hlabel]; rfl)
      rw [hcons]
      refine List.forall_mem_cons.mpr ⟨?_, ih⟩
      refine ⟨front.length, definedAt?_append_of_fresh hlabel (fresh name hlabel) rest, ?_, fits⟩
      rw [List.take_left]
  | clashing line name k statement fits label defined tail ih =>
    rw [← List.append_cons] at ih
    exact ih
  | overflowing => exact List.forall_mem_nil _

/-- A repeated label is reported with the mailbox of the statement that defines it. -/
lemma Lays.duplicate (h : Lays front rest entries) :
    ∀ e ∈ layoutErrors entries, ∀ name address, e.cause = .duplicateLabel name address →
      ∃ k, definedAt? (front ++ rest) name = some k ∧
        address = distinctCount ((front ++ rest).take k) ∧ address < mailboxCount := by
  induction h with
  | done => exact List.forall_mem_nil _
  | silent line statement tail ih => exact ih
  | placed line statement fits fresh tail ih =>
    rw [← List.append_cons] at ih
    exact ih
  | @clashing front rest entries s line name k statement fits label defined tail ih =>
    rw [← List.append_cons] at ih
    refine List.forall_mem_cons.mpr ⟨fun name' address hcause => ?_, ih⟩
    obtain ⟨rfl, rfl⟩ := Cause.duplicateLabel.inj hcause
    have hk := lt_length_of_definedAt? defined
    have hle := distinctCount_take_mono front hk.le
    rw [List.take_length] at hle
    refine ⟨k, definedAt?_append defined _, ?_, by omega⟩
    rw [List.take_append_of_le_length hk.le]
  | overflowing => exact List.forall_mem_singleton.mpr nofun

/-- The first statement with a hundred before it that count is the next one, or it comes later. -/
lemma exists_full_cons : (∃ k < (s :: rest).length,
      mailboxCount ≤ distinctCount (front ++ (s :: rest).take k)) ↔
    mailboxCount ≤ distinctCount front ∨
      ∃ k < rest.length, mailboxCount ≤ distinctCount (front ++ [s] ++ rest.take k) := by
  rw [List.length_cons, Nat.exists_lt_succ_left]
  simp

/-- The program is reported as too large exactly if a statement has a hundred before it that
count. -/
lemma Lays.programTooLarge_iff (h : Lays front rest entries) :
    (∃ e ∈ layoutErrors entries, e.cause = .programTooLarge) ↔
      ∃ k < rest.length, mailboxCount ≤ distinctCount (front ++ rest.take k) := by
  induction h with
  | done => simp [layoutErrors]
  | silent line statement tail ih => exact ih
  | placed line statement fits fresh tail ih =>
    rw [exists_full_cons, or_iff_right (Nat.not_le_of_lt fits)]
    exact ih
  | @clashing front rest entries s line name k statement fits label defined tail ih =>
    rw [exists_full_cons, or_iff_right (Nat.not_le_of_lt fits), ← ih]
    constructor
    · rintro ⟨e, he, hcause⟩
      rcases List.mem_cons.mp he with rfl | he
      · cases hcause
      · exact ⟨e, he, hcause⟩
    · rintro ⟨e, he, hcause⟩
      exact ⟨e, List.mem_cons_of_mem _ he, hcause⟩
  | overflowing line statement full =>
    rw [exists_full_cons]
    exact iff_of_true ⟨_, List.mem_singleton_self _, rfl⟩ (.inl full)

end

/-! ### What an assembler makes of it -/

/-- The second pass finds no fault that the first one could find. -/
lemma isOfLayout_of_word {symbols : Symbols} {s : Statement} {cause : Cause}
    (h : s.word symbols = .error cause) : cause.isOfLayout = false := by
  have hvalue {limit : Nat} {operand : Text}
      (h : operandValue symbols limit operand = .error cause) :
      cause.isOfLayout = false := by
    unfold operandValue at h
    split at h
    · split at h
      · exact Except.error.inj h ▸ rfl
      · exact Except.error.inj h ▸ rfl
    · split at h
      · exact Except.error.inj h ▸ rfl
      · split at h
        · cases h
        · exact Except.error.inj h ▸ rfl
      · split at h
        · cases h
        · split at h
          · exact Except.error.inj h ▸ rfl
          · exact Except.error.inj h ▸ rfl
  unfold Statement.word at h
  split at h
  · exact Except.error.inj h ▸ rfl
  · cases h
  · exact hvalue (map_eq_error_iff.mp h)
  · cases h
  · exact Except.error.inj h ▸ rfl
  · exact Except.error.inj h ▸ rfl
  · exact hvalue (map_eq_error_iff.mp h)

/-- So its errors are of another kind. -/
lemma isOfLayout_of_mem_encodingErrors {symbols : Symbols} {entries : List Entry} {e : Error}
    (h : e ∈ encodingErrors symbols entries) : e.cause.isOfLayout = false := by
  obtain ⟨entry, -, hentry⟩ := List.mem_filterMap.mp h
  cases entry with
  | placed line s address =>
    cases hword : s.word symbols with
    | error cause =>
      simp only [Entry.encodingError?, Entry.word?, hword, Option.some.injEq] at hentry
      subst hentry
      exact isOfLayout_of_word hword
    | ok word => simp [Entry.encodingError?, Entry.word?, hword] at hentry
  | rejected | silent | clashing | overflowing => cases hentry

/-- The errors of an assembly that the first pass can find are those that it found. -/
lemma mem_errors_iff_of_isOfLayout (source : Source) {e : Error} (h : e.cause.isOfLayout = true) :
    e ∈ (ofSource source).errors ↔ e ∈ layoutErrors (layout source.toLines) := by
  cases hlaid : (ofSource source).isLaidOut with
  | false => rw [errors_of_isLaidOut_eq_false hlaid]
  | true =>
    have hnone : layoutErrors (layout source.toLines) = [] := List.isEmpty_iff.mp hlaid
    rw [errors_of_isLaidOut hlaid, hnone]
    refine iff_of_false (fun hmem => ?_) List.not_mem_nil
    rw [isOfLayout_of_mem_encodingErrors hmem] at h
    cases h

end Assembly

namespace Assembler

open Assembly

/-- What is on the bench after an assembly counts the statements of a program in this way. -/
structure CountsBy (a : Assembler) (program : List Statement) (count : Nat → Nat) : Prop where
  /-- The lines on the bench have the statements of the program. The number of a line is the count
  of its statement, and that of a mailbox. -/
  line : ∀ (k : Nat) (kept : KeptLine), (statementLines a.lines)[k]? = some kept →
    k < program.length ∧ program[k]? = kept.line.statement ∧
      ∀ address, kept.address = some address → address = count k ∧ address < 100
  /-- Every statement has its line and its number, up to one for which there is no mailbox left. -/
  reached : ∀ k < program.length, (∀ j ≤ k, count j < 100) →
    ∃ kept, (statementLines a.lines)[k]? = some kept ∧ kept.address = some (count k)
  /-- A label has the mailbox of the statement that defines it. -/
  symbol : ∀ name address, a.symbols.lookup name = some address →
    ∃ k, definedAt? program name = some k ∧ address = count k ∧ address < 100
  /-- So it is quoted where the label is repeated. -/
  duplicate : ∀ e ∈ a.errors, ∀ name address, e.cause = .duplicateLabel name address →
    ∃ k, definedAt? program name = some k ∧ address = count k ∧ address < 100
  /-- The program is too large if the count goes beyond the mailboxes. -/
  programTooLarge : (∃ e ∈ a.errors, e.cause = .programTooLarge) ↔
    ∃ k < program.length, 100 ≤ count k

section

variable {a : Assembler} {program : List Statement}

/-- Ways to count come to the same if they agree on the statements that have a mailbox. -/
lemma CountsBy.congr {count count' : Nat → Nat} (h : a.CountsBy program count)
    (hcount : ∀ k < program.length, count k < 100 ∨ count' k < 100 → count k = count' k) :
    a.CountsBy program count' where
  line k kept hkept := by
    obtain ⟨hlt, hline, hnumber⟩ := h.line k kept hkept
    refine ⟨hlt, hline, fun address haddress => ?_⟩
    obtain ⟨rfl, hfits⟩ := hnumber address haddress
    exact ⟨hcount k hlt (.inl hfits), hfits⟩
  reached k hk hbefore := by
    have hsame (j : Nat) (hj : j ≤ k) : count j = count' j :=
      hcount j (by omega) (.inr (hbefore j hj))
    rw [← hsame k le_rfl]
    exact h.reached k hk fun j hj => hsame j hj ▸ hbefore j hj
  symbol name address hlookup := by
    obtain ⟨k, hk, rfl, hfits⟩ := h.symbol name address hlookup
    exact ⟨k, hk, hcount k (lt_length_of_definedAt? hk) (.inl hfits), hfits⟩
  duplicate e he name address hcause := by
    obtain ⟨k, hk, rfl, hfits⟩ := h.duplicate e he name address hcause
    exact ⟨k, hk, hcount k (lt_length_of_definedAt? hk) (.inl hfits), hfits⟩
  programTooLarge := by
    rw [h.programTooLarge]
    refine exists_congr fun k => and_congr_right fun hk => ?_
    have hsame := hcount k hk
    omega

/-- The lines on the bench after an assembly are those of the first pass, which the second one does
not renumber. -/
lemma numbered_lines_assemble (a : Assembler) (source : Source) :
    (a.assemble source).1.lines.map KeptLine.numbered =
      (benchLines 0 (layout source.toLines)).map KeptLine.numbered := by
  have hencoded : KeptLine.numbered ∘ KeptLine.encoded (ofSource source).symbols =
      KeptLine.numbered := by
    funext kept
    unfold Function.comp KeptLine.encoded
    split <;> rfl
  rw [assemble_eq]
  split
  · rfl
  · next hfound =>
    have hlaid : (ofSource source).isLaidOut = true := List.isEmpty_iff.mpr hfound
    have hreached : (ofSource source).reachedEntries <+: layout source.toLines := by
      unfold reachedEntries
      rw [if_pos hlaid]
      exact List.takeWhile_prefix _
    have hsecond : (benchOf source).secondPass.1.lines.map KeptLine.numbered =
        (benchLines 0 (layout source.toLines)).map KeptLine.numbered := by
      have hlayout : layoutErrors (layout source.toLines) = [] := List.isEmpty_iff.mp hlaid
      rw [secondPass_fst hlaid, benchLines_of_layoutErrors 0 hlayout]
      dsimp only
      rw [List.map_append, List.map_map, hencoded, ← List.map_append, ← List.filterMap_append,
        List.prefix_iff_eq_append.mp hreached]
    split
    · next encoded e hended =>
      rw [hended] at hsecond
      exact hsecond
    · next encoded image hended =>
      rw [hended] at hsecond
      split <;> exact hsecond

/-- An assembler counts every statement, except that it counts those with the same label once. -/
theorem countsBy_distinctCount (a : Assembler) {source : Source}
    (h : ReadsAs source.toLines program) :
    (a.assemble source).1.CountsBy program fun k => distinctCount (program.take k) := by
  have hlays : Lays [] program (layout source.toLines) :=
    lays_layoutFrom 1 rfl (fun _ => rfl) h
  obtain ⟨-, hshows⟩ := a.shows_assemble source
  have hstatements := congrArg (List.filter (·.1.statement.isSome))
    (a.numbered_lines_assemble source)
  rw [List.filter_map, List.filter_map] at hstatements
  have hline (k : Nat) : ((statementLines (a.assemble source).1.lines)[k]?).map KeptLine.numbered =
      ((statementLines (benchLines 0 (layout source.toLines)))[k]?).map KeptLine.numbered := by
    rw [← List.getElem?_map, ← List.getElem?_map]
    exact congrArg (·[k]?) hstatements
  have hnumbered : Numbered [] program (statementLines (benchLines 0 (layout source.toLines))) :=
    hlays.numbered
  constructor
  · intro k kept hkept
    have hsame := hline k
    rw [hkept, Option.map_some] at hsame
    obtain ⟨kept', hkept', heq⟩ := Option.map_eq_some_iff.mp hsame.symm
    obtain ⟨hsourceLine, haddress⟩ := Prod.mk.inj heq
    rw [← hsourceLine, ← haddress]
    exact hnumbered.line k kept' hkept'
  · intro k hk hbefore
    obtain ⟨kept, hkept, haddress⟩ := hnumbered.reached k hk hbefore
    have hsame := hline k
    rw [hkept, Option.map_some] at hsame
    obtain ⟨kept', hkept', heq⟩ := Option.map_eq_some_iff.mp hsame
    exact ⟨kept', hkept', (Prod.mk.inj heq).2.trans haddress⟩
  · intro name address hlookup
    rw [hshows.symbols] at hlookup
    exact hlays.symbol _ (mem_of_lookup_eq_some hlookup)
  · intro e he name address hcause
    rw [hshows.errors, mem_errors_iff_of_isOfLayout source (by rw [hcause]; rfl)] at he
    exact hlays.duplicate e he name address hcause
  · rw [hshows.errors]
    refine Iff.trans ?_ hlays.programTooLarge_iff
    refine exists_congr fun e => and_congr_left fun hcause => ?_
    exact mem_errors_iff_of_isOfLayout source (by rw [hcause]; rfl)

/-- What an assembler counts. For every source in which every line can be read, whatever was on the
bench before, a statement is given the mailbox whose number is that of the statements before it, of
which those with the same label count once. This is the mailbox that the table has for a label, and
the one that is quoted where the label is repeated, and the program is too large if a statement has
a hundred before it that count.

So every statement counts, and stands in the mailbox whose number is that of all statements before
it, exactly if among the first hundred only the last statement of the program repeats a label. -/
theorem assemble_counts (a : Assembler) {source : Source} (h : ReadsAs source.toLines program) :
    ((a.assemble source).1.CountsBy program fun k => distinctCount (program.take k)) ∧
      (((a.assemble source).1.CountsBy program fun k => k) ↔
        ∀ k < 100, Repeats program k → k + 1 = program.length) := by
  have hcounts := a.countsBy_distinctCount h
  refine ⟨hcounts, fun hall => ?_, fun honly => ?_⟩
  · intro k hk hrepeats
    by_contra hnot
    have hlt := hrepeats.lt_length
    -- The first statement that repeats a label leaves its mailbox to the next one.
    obtain ⟨j, hjk, hj, hfirst⟩ := hrepeats.exists_first
    have hbefore (i : Nat) (hi : i ≤ j) : distinctCount (program.take i) = i :=
      distinctCount_take_eq (by omega) fun i' hi' => hfirst i' (by omega)
    have hnext : distinctCount (program.take (j + 1)) = j := by
      obtain ⟨-, hsame⟩ | ⟨hnew, -⟩ := distinctCount_take_succ program hj.lt_length
      · rw [hsame, hbefore j le_rfl]
      · exact absurd hj hnew
    have hfits (i : Nat) (hi : i ≤ j + 1) : distinctCount (program.take i) < 100 := by
      have hmono := distinctCount_take_mono program hi
      omega
    obtain ⟨kept, hkept, haddress⟩ := hcounts.reached (j + 1) (by omega) hfits
    obtain ⟨-, -, hnumber⟩ := hall.line (j + 1) kept hkept
    have hnumber := (hnumber _ haddress).1
    omega
  · refine hcounts.congr fun k hk hfits => ?_
    have hfresh (j : Nat) (hj : j < k) (hlt : j < 100) : ¬ Repeats program j := fun hrepeats => by
      have := honly j hlt hrepeats
      omega
    rcases Nat.lt_or_ge 100 k with hbeyond | hwithin
    · have hhundred : distinctCount (program.take 100) = 100 :=
        distinctCount_take_eq (by omega) fun j hj => hfresh j (by omega) hj
      have hmono := distinctCount_take_mono program hbeyond.le
      omega
    · exact distinctCount_take_eq hk.le fun j hj => hfresh j hj (by omega)

end

/-- Two labels that are both defined twice. The second one is quoted with mailbox 1, although the
statement that defines it has two before it, and so the statements are not all counted. -/
theorem assemble_counts_twice :
    let source : Source := .text "a DAT\na DAT\nb DAT\nb DAT"
    let program : List Statement :=
      [⟨some "a", "DAT", none⟩, ⟨some "a", "DAT", none⟩, ⟨some "b", "DAT", none⟩,
        ⟨some "b", "DAT", none⟩]
    ReadsAs source.toLines program ∧
      (({} : Assembler).assemble source).1.errors.map (fun e => (e.cause, e.line)) =
        [(.duplicateLabel "a" 0, 2), (.duplicateLabel "b" 1, 4)] ∧
      (({} : Assembler).assemble source).1.CountsBy program
        (fun k => distinctCount (program.take k)) ∧
      ¬ (({} : Assembler).assemble source).1.CountsBy program (fun k => k) := by
  intro source program
  have hread (line : Text) (s : Statement) (h : statement? line = .ok (some s)) :
      Reads (lineFields line) s :=
    (statement?_eq_ok_some_iff line s).mp h
  have hreads : ReadsAs source.toLines program :=
    .cons (hread _ _ (by decide)) (.cons (hread _ _ (by decide))
      (.cons (hread _ _ (by decide)) (.cons (hread _ _ (by decide)) .nil)))
  obtain ⟨hcounts, hiff⟩ := assemble_counts {} hreads
  refine ⟨hreads, by decide, hcounts, fun hall => ?_⟩
  have hrepeats : Repeats program 1 := ⟨⟨some "a", "DAT", none⟩, "a", rfl, rfl, by decide⟩
  have hlast := hiff.mp hall 1 (by omega) hrepeats
  cases hlast

end Assembler

end LittleMan
