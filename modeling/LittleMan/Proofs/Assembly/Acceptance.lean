import LittleMan.Assembly.Basic
import LittleMan.Proofs.Assembly.Placement

/-!
# What the assembler accepts

The assembler accepts exactly the language, and the image it yields is the one that the language
gives to the program (`assemble_accepts_exactly`). Each pass contributes its half: the first one
finds no error exactly when the source reads as a program (`layoutErrors_eq_nil_iff`), the second
one finds none and comes to its end exactly when every statement encodes (`failure?_eq_none_iff`).
-/

namespace LittleMan

namespace Assembly

/-! ### The second pass on the placed statements -/

/-- The words of a layout are those of its placed statements. -/
lemma wordsOf_eq (symbols : Symbols) (entries : List Entry) :
    wordsOf symbols entries =
      (placedStatements entries).filterMap fun s => (s.word symbols).toOption := by
  unfold wordsOf placedStatements placements
  rw [List.map_filterMap, List.filterMap_filterMap]
  congr 1
  funext e
  cases e with
  | placed line s address =>
    cases hword : s.word symbols <;> simp [Entry.word?, Entry.placement?, hword, Except.toOption]
  | _ => rfl

/-- The second pass finds no error in a placed statement that has a word, and in other lines. -/
lemma encodingError?_eq_none_iff (symbols : Symbols) (e : Entry) :
    e.encodingError? symbols = none ↔
      ∀ s address, e.placement? = some (s, address) → ∃ word, s.word symbols = .ok word := by
  cases e with
  | placed line s address =>
    cases hword : s.word symbols with
    | error cause => simp [Entry.encodingError?, Entry.word?, Entry.placement?, hword]
    | ok word => simp [Entry.encodingError?, Entry.word?, Entry.placement?, hword]
  | _ => simp [Entry.encodingError?, Entry.word?, Entry.placement?]

/-- The second pass finds no error in any entry exactly when every placed statement has a word. -/
lemma forall_encodingError?_eq_none_iff (symbols : Symbols) (entries : List Entry) :
    (∀ e ∈ entries, e.encodingError? symbols = none) ↔
      ∀ s ∈ placedStatements entries, ∃ word, s.word symbols = .ok word := by
  unfold placedStatements placements
  simp only [encodingError?_eq_none_iff, List.mem_map, List.mem_filterMap]
  constructor
  · rintro h s ⟨⟨s', address⟩, ⟨e, he, hplaced⟩, rfl⟩
    exact h e he s' address hplaced
  · intro h e he s address hplaced
    exact h s ⟨(s, address), ⟨e, he, hplaced⟩, rfl⟩

/-! ### Stops -/

section

variable {symbols : Symbols} {entries : List Entry}

/-- A pass either gets through all entries or stops at the first entry that stops it. -/
lemma stop_cases (symbols : Symbols) (entries : List Entry) :
    ((∀ e ∈ entries, e.stop? symbols = none) ∧ reached symbols entries = entries ∧
      entries.findSome? (Entry.stop? symbols) = none) ∨
    ∃ (before after : List Entry) (e : Entry) (error : Error), entries = before ++ e :: after ∧
      (∀ e' ∈ before, e'.stop? symbols = none) ∧ e.stop? symbols = some error ∧
      reached symbols entries = before ∧
      entries.findSome? (Entry.stop? symbols) = some error := by
  induction entries with
  | nil => exact .inl ⟨List.forall_mem_nil _, rfl, rfl⟩
  | cons e entries ih =>
    unfold reached at ih ⊢
    cases hstop : e.stop? symbols with
    | some error =>
      exact .inr ⟨[], entries, e, error, rfl, List.forall_mem_nil _, hstop,
        List.takeWhile_cons_of_neg (by simp [hstop]), by simp [hstop]⟩
    | none =>
      rw [List.takeWhile_cons_of_pos (by simp [hstop]), List.findSome?_cons, hstop]
      rcases ih with ⟨hnone, hreached, hfind⟩ |
        ⟨before, after, e', error, rfl, hnone, hstop', hreached, hfind⟩
      · exact .inl ⟨List.forall_mem_cons.mpr ⟨hstop, hnone⟩, by rw [hreached], hfind⟩
      · exact .inr ⟨e :: before, after, e', error, rfl,
          List.forall_mem_cons.mpr ⟨hstop, hnone⟩, hstop', by rw [hreached], hfind⟩

/-- A pass that does not stop gets through all entries. -/
lemma reached_eq_self_iff :
    reached symbols entries = entries ↔ ∀ e ∈ entries, e.stop? symbols = none := by
  unfold reached
  rw [List.takeWhile_eq_self_iff]
  simp only [Option.isNone_iff_eq_none]

/-- A pass finds no error in any entry exactly if it does not stop and finds none up to its end. -/
lemma forall_encodingError?_iff : (∀ e ∈ entries, e.encodingError? symbols = none) ↔
    (∀ e ∈ entries, e.stop? symbols = none) ∧ encodingErrors symbols entries = [] := by
  unfold encodingErrors
  rw [List.filterMap_eq_nil_iff]
  constructor
  · intro h
    have hstop : ∀ e ∈ entries, e.stop? symbols = none := fun e he => by
      rw [Entry.stop?, h e he]
      rfl
    exact ⟨hstop, by rwa [reached_eq_self_iff.mpr hstop]⟩
  · rintro ⟨hstop, herrors⟩
    rwa [reached_eq_self_iff.mpr hstop] at herrors

end

/-! ### Images -/

/-- A list mapped by a function that is defined on all of it, at an index. -/
lemma getElem?_filterMap_of_forall {α β : Type} {f : α → Option β} {l : List α}
    (h : ∀ a ∈ l, ∃ b, f a = some b) (k : Nat) : (l.filterMap f)[k]? = l[k]?.bind f := by
  induction l generalizing k with
  | nil => rfl
  | cons a l ih =>
    obtain ⟨b, hb⟩ := h a List.mem_cons_self
    rw [List.filterMap_cons_some hb]
    cases k with
    | zero => exact hb.symm
    | succ k => exact ih (fun a' ha' => h a' (List.mem_cons_of_mem a ha')) k

section

variable {symbols : Symbols} {program : List Statement}

/-- The words of a program, padded to a hundred, are its image. -/
lemma Resolves.isImage_padded (h : Resolves symbols program) (hlength : program.length ≤ 100)
    (hwords : ∀ s ∈ program, ∃ word, s.word symbols = .ok word) :
    IsImage program (padded (program.filterMap fun s => (s.word symbols).toOption)) := by
  set words := program.filterMap fun s => (s.word symbols).toOption with hdef
  have hget : ∀ k : Nat, words[k]? = program[k]?.bind fun s => (s.word symbols).toOption := by
    refine getElem?_filterMap_of_forall fun s hs => ?_
    obtain ⟨word, hword⟩ := hwords s hs
    exact ⟨word, by rw [hword]; rfl⟩
  have hlen : words.length = program.length := by
    refine List.filterMap_length_eq_length.mpr fun s hs => ?_
    obtain ⟨word, hword⟩ := hwords s hs
    rw [hword]
    rfl
  have hle : words.length ≤ mailboxCount := hlen.trans_le hlength
  refine ⟨length_padded hle, fun k s hs => ?_, fun k hk hlt => ?_⟩
  · obtain ⟨word, hword⟩ := hwords s (List.mem_of_getElem? hs)
    have hk : words[k]? = some word := by
      rw [hget k, hs, Option.bind_some, hword]
      rfl
    refine ⟨word, (word_eq_ok_iff h s word).mp hword, ?_⟩
    rw [getElem?_padded_of_lt (List.getElem?_eq_some_iff.mp hk).1, hk]
  · exact getElem?_padded_of_le (hlen.trans_le hk) hlt

/-- A program has at most one image. -/
lemma Resolves.isImage_unique (h : Resolves symbols program) {image image' : List Int}
    (himage : IsImage program image) (himage' : IsImage program image') : image = image' := by
  refine List.ext_getElem? fun k => ?_
  by_cases hk : k < program.length
  · obtain ⟨word, hword, hget⟩ := himage.encodes k program[k] (List.getElem?_eq_getElem hk)
    obtain ⟨word', hword', hget'⟩ := himage'.encodes k program[k] (List.getElem?_eq_getElem hk)
    rw [hget, hget', h.encodes_unique hword hword']
  · by_cases hlt : k < 100
    · rw [himage.zero k (by omega) hlt, himage'.zero k (by omega) hlt]
    · rw [List.getElem?_eq_none (by rw [himage.length_eq]; omega),
        List.getElem?_eq_none (by rw [himage'.length_eq]; omega)]

end

/-! ### Both passes -/

/-- An assembly does not fail if the first pass finds no error and every placed statement has a
word. -/
theorem failure?_eq_none_iff (a : Assembly) : a.failure? = none ↔ layoutErrors a.entries = [] ∧
    ∀ s ∈ placedStatements a.entries, ∃ word, s.word a.symbols = .ok word := by
  rw [← forall_encodingError?_eq_none_iff, forall_encodingError?_iff]
  unfold failure? stop? errors isLaidOut
  rw [Option.or_eq_none_iff, List.head?_eq_none_iff]
  by_cases h : layoutErrors a.entries = []
  · simp [h, List.findSome?_eq_none_iff]
  · simp [h]

/-- The result of an assembly is its image if it does not fail. -/
lemma result_eq_ok_iff (a : Assembly) (image : List Int) :
    a.result = .ok image ↔ a.failure? = none ∧ a.image = image := by
  unfold result
  cases a.failure? with
  | none => simp
  | some e => simp

/-- The image of an assembly that does not fail. -/
lemma image_eq_of_failure? {a : Assembly} (h : a.failure? = none) :
    a.image = padded (wordsOf a.symbols a.entries) := by
  rw [Assembly.image, h]
  rfl

/-- The statements of a source in the language are those that the first pass places. -/
lemma IsProgram.eq_placed {source : List Text} {program : List Statement}
    (h : IsProgram source program) : program = placedStatements (layout source) := by
  have hlayout : layoutErrors (layout source) = [] :=
    (layoutErrors_eq_nil_iff source).mpr ⟨program, h.readsAs, h.labels_nodup, h.length_le⟩
  exact h.readsAs.unique (readsAs_placed 1 0 [] source hlayout)

/-- The table of labels of a source in the language belongs to its program. -/
lemma IsProgram.resolves {source : List Text} {program : List Statement}
    (h : IsProgram source program) : Resolves (symbolsOf (layout source)) program := by
  rw [h.eq_placed]
  exact resolves_symbolsOf source

/-- What assembles is in the language, and its image is that of the program. -/
lemma exists_isProgram_of_assemble {source : Source} {image : List Int}
    (h : assemble source = .ok image) :
    ∃ program, IsProgram source.toLines program ∧ IsImage program image := by
  obtain ⟨hfailure, rfl⟩ := (result_eq_ok_iff _ image).mp h
  obtain ⟨hlayout, hwords⟩ := (failure?_eq_none_iff _).mp hfailure
  have hresolves := resolves_symbolsOf source.toLines
  have hlength := length_placed_le 1 [] source.toLines (Nat.zero_le mailboxCount)
  rw [Nat.zero_add] at hlength
  refine ⟨placedStatements (layout source.toLines), ?_, ?_⟩
  · refine ⟨readsAs_placed 1 0 [] source.toLines hlayout, (labels_placed_fresh 1 0 [] _).1,
      hlength, fun s hs => ?_⟩
    obtain ⟨word, hword⟩ := hwords s hs
    exact ⟨word, (word_eq_ok_iff hresolves s word).mp hword⟩
  · rw [image_eq_of_failure? hfailure, wordsOf_eq]
    exact hresolves.isImage_padded hlength hwords

/-- What is in the language assembles. -/
lemma IsProgram.exists_assemble_eq_ok {source : Source} {program : List Statement}
    (h : IsProgram source.toLines program) :
    ∃ image, assemble source = .ok image ∧ IsImage program image := by
  have hresolves := h.resolves
  have hwords : ∀ s ∈ program, ∃ word, s.word (symbolsOf (layout source.toLines)) = .ok word := by
    intro s hs
    obtain ⟨word, hword⟩ := h.encodes s hs
    exact ⟨word, (word_eq_ok_iff hresolves s word).mpr hword⟩
  have hlayout : layoutErrors (layout source.toLines) = [] :=
    (layoutErrors_eq_nil_iff _).mpr ⟨program, h.readsAs, h.labels_nodup, h.length_le⟩
  have hfailure : (ofSource source).failure? = none :=
    (failure?_eq_none_iff _).mpr ⟨hlayout, fun s hs => hwords s (h.eq_placed ▸ hs)⟩
  refine ⟨(ofSource source).image, (result_eq_ok_iff _ _).mpr ⟨hfailure, rfl⟩, ?_⟩
  have himage : (ofSource source).image = padded (program.filterMap fun s =>
      (s.word (symbolsOf (layout source.toLines))).toOption) := by
    rw [image_eq_of_failure? hfailure, wordsOf_eq, h.eq_placed]
    rfl
  rw [himage]
  exact hresolves.isImage_padded h.length_le hwords

example : assemble (.lines ["LDA later", "hlt", "later: DAT 7"]) = .ok (padded [502, 0, 7]) := by
  decide

end Assembly

end LittleMan
