import LittleMan.Memory
import LittleMan.Proofs.Basic
import LittleMan.Tray

/-!
# Memory and trays

What reading, writing and loading do, each as one statement: a mailbox can be read exactly if its
number is an address (`read_eq_ok_iff`, `read_eq_error_iff`), a write ends in one of four ways
(`write_cases`) and calls the watchers of its mailbox up to the first that objects (`write_eq`), and
an image or a list of inputs is taken exactly if every entry is a word (`imageWords_eq_ok_iff`,
`inputWords_eq_ok_iff`). A memory with a word in each of its hundred mailboxes (`HoldsWords`) stays
one under all of them.
-/

namespace LittleMan

/-! ### Offered data -/

/-- A piece of data is a word if it is an integer in range. -/
lemma Datum.word?_eq_some_iff (d : Datum) (w : Int) :
    d.word? = some w ↔ d = .integer w ∧ IsWord w := by
  cases d with
  | integer n =>
    simp only [word?]
    split
    · next h =>
      simp only [Option.some.injEq, integer.injEq]
      exact ⟨fun hn => ⟨hn, hn ▸ h⟩, fun hn => hn.1⟩
    · next h =>
      simp only [reduceCtorEq, integer.injEq, false_iff, not_and]
      rintro rfl
      exact h
  | _ => simp [word?]

/-- Integers that are words are taken for words. -/
lemma Datum.map_word?_integers {words : List Int} (h : ∀ w ∈ words, IsWord w) :
    (words.map Datum.integer).map Datum.word? = words.map some := by
  rw [List.map_map]
  exact List.map_congr_left fun w hw => if_pos (h w hw)

/-- A list of data is taken for words if its first entry is and the others are. -/
lemma words_cons_eq_ok_iff {others : Except Fault.Cause (List Int)} {data : List Datum}
    (h : ∀ words, others = .ok words ↔ data.map Datum.word? = words.map some) (d : Datum)
    (cause : Fault.Cause) (words : List Int) :
    (match d.word? with
      | some w => (w :: ·) <$> others
      | none => .error cause) = .ok words ↔ (d :: data).map Datum.word? = words.map some := by
  rw [List.map_cons]
  cases hd : d.word? with
  | none => cases words <;> simp
  | some w =>
    dsimp only
    rw [map_eq_ok_iff]
    simp only [h]
    cases words with
    | nil => simp
    | cons w' words => simp [and_comm]

/-- What is taken for words are words. -/
lemma isWord_of_map_word? {data : List Datum} {words : List Int}
    (h : data.map Datum.word? = words.map some) : ∀ w ∈ words, IsWord w := by
  intro w hw
  have hmem : some w ∈ data.map Datum.word? := h ▸ List.mem_map_of_mem hw
  obtain ⟨d, -, hd⟩ := List.mem_map.mp hmem
  exact ((d.word?_eq_some_iff w).mp hd).2

namespace Memory

/-! ### Reading -/

section

variable (m : Memory) (a : Int)

/-- The mailboxes are those whose numbers are addresses. -/
lemma read_eq_ok_iff (w : Int) :
    m.read a = .ok w ↔ IsAddress a ∧ m.cells.getD a.toNat 0 = w := by
  unfold read
  split
  · next h => simp [h]
  · next h => simp [h]

/-- Reading refuses what is no address. -/
lemma read_eq_error_iff (cause : Fault.Cause) :
    m.read a = .error cause ↔ ¬ IsAddress a ∧ cause = .noMailbox a := by
  unfold read
  split
  · next h => simp [h]
  · next h => simp [h, eq_comm]

end

/-! ### Writing -/

section

variable (address old new : Int)

/-- Whether a watcher objects to a write. -/
def Objects (w : Watcher) : Bool :=
  (w.objection? address old new).isSome

/-- The watchers that are called for a write: those in front of the first one that objects, and then
that one. -/
def called (watchers : List Watcher) : List Watcher :=
  watchers.takeWhile (!Objects address old new ·) ++
    (watchers.find? (Objects address old new)).toList

/-- The objection to a write, which is that of the first watcher who has one. -/
def objection? (watchers : List Watcher) : Option Objection :=
  watchers.findSome? (·.objection? address old new)

/-- Each of the watchers that are called is told of the write once, and the first objection is what
the calls come to. -/
lemma callWatchers_eq (content : Int) (watchers : List Watcher) :
    callWatchers address old new content watchers =
      ((called address old new watchers).map fun w => ⟨w.name, address, old, new, content⟩,
        (objection? address old new watchers).map Objection.cause) := by
  induction watchers with
  | nil => rfl
  | cons w rest ih =>
    unfold callWatchers
    cases hobjection : w.objection? address old new with
    | some objection => simp [called, Objects, objection?, hobjection]
    | none => simp [called, Objects, objection?, hobjection, ih]

variable {address old new}

/-- A call of watchers that ends in a refusal ends in the objection of one of them. -/
lemma exists_objection_of_callWatchers {content : Int} {watchers : List Watcher}
    {calls : List Sighting} {cause : Fault.Cause}
    (h : callWatchers address old new content watchers = (calls, some cause)) :
    ∃ w ∈ watchers, ∃ o, w.objection? address old new = some o ∧ cause = o.cause := by
  rw [callWatchers_eq] at h
  obtain ⟨o, hfind, hcause⟩ := Option.map_eq_some_iff.mp (Prod.mk.inj h).2
  obtain ⟨w, hw, ho⟩ := List.exists_of_findSome?_eq_some hfind
  exact ⟨w, hw, o, ho, hcause.symm⟩

end

/-- A write of a word into a mailbox: what its watchers are told, and the memory afterwards unless
one of them objects. -/
lemma write_eq (m : Memory) {a value : Int} (ha : IsAddress a) (hvalue : IsWord value) :
    m.write a value =
      ((called a (m.cells.getD a.toNat 0) value (m.watchersOf a)).map fun w =>
          ⟨w.name, a, m.cells.getD a.toNat 0, value, m.cells.getD a.toNat 0⟩,
        match objection? a (m.cells.getD a.toNat 0) value (m.watchersOf a) with
        | some o => .error o.cause
        | none => .ok { m with cells := m.cells.set a.toNat value }) := by
  unfold write
  rw [if_pos ha, if_pos hvalue]
  dsimp only
  rw [callWatchers_eq]
  cases objection? a (m.cells.getD a.toNat 0) value (m.watchersOf a) <;> rfl

/-- Every other write is refused, and nobody is called. -/
lemma write_of_not (m : Memory) {a value : Int} (h : ¬ (IsAddress a ∧ IsWord value)) :
    ∃ cause, m.write a value = ([], .error cause) := by
  unfold write
  split
  · next ha =>
    rw [if_neg fun hvalue => h ⟨ha, hvalue⟩]
    exact ⟨_, rfl⟩
  · exact ⟨_, rfl⟩

/-- Everything that a write can do. -/
inductive WriteCases (m : Memory) (a value : Int) :
    List Sighting × Except Fault.Cause Memory → Prop where
  /-- There is no such mailbox. -/
  | noMailbox (outside : ¬ IsAddress a) : WriteCases m a value ([], .error (.noMailbox a))
  /-- The value is no word. -/
  | notStorable (address : IsAddress a) (outside : ¬ IsWord value) :
      WriteCases m a value ([], .error (.notStorable value))
  /-- A watcher of the mailbox objects. -/
  | objected (address : IsAddress a) (word : IsWord value) (calls : List Sighting)
      (cause : Fault.Cause)
      (call : callWatchers a (m.cells.getD a.toNat 0) value (m.cells.getD a.toNat 0)
        (m.watchersOf a) = (calls, some cause)) : WriteCases m a value (calls, .error cause)
  /-- The value is written. -/
  | written (address : IsAddress a) (word : IsWord value) (calls : List Sighting)
      (call : callWatchers a (m.cells.getD a.toNat 0) value (m.cells.getD a.toNat 0)
        (m.watchersOf a) = (calls, none)) :
      WriteCases m a value (calls, .ok { m with cells := m.cells.set a.toNat value })

/-- What a write does is one of the cases. -/
theorem write_cases (m : Memory) (a value : Int) : WriteCases m a value (m.write a value) := by
  unfold write
  split
  · next address =>
    split
    · next word =>
      dsimp only
      split
      · next calls cause call => exact .objected address word calls cause call
      · next calls call => exact .written address word calls call
    · next outside => exact .notStorable address outside
  · next outside => exact .noMailbox outside

/-- What an objection makes a write fail for is of no kind that the machine itself gives. -/
lemma kind_cause_objection (o : Objection) :
    o.cause.kind = .general ∨ o.cause.kind.isOwn = false := by
  cases o with
  | veto reason => exact .inl rfl
  | exception kind reason => exact .inr rfl

/-- A write fails for its mailbox, for its value, or by an objection. -/
lemma kind_of_write_error {m : Memory} {a value : Int} {calls : List Sighting}
    {cause : Fault.Cause} (h : m.write a value = (calls, .error cause)) :
    cause.kind = .addressOutOfRange ∨ cause.kind = .invalidWord ∨ cause.kind = .general ∨
      cause.kind.isOwn = false := by
  have hcases := m.write_cases a value
  rw [h] at hcases
  cases hcases with
  | noMailbox => exact .inl rfl
  | notStorable => exact .inr (.inl rfl)
  | objected address word calls cause call =>
    obtain ⟨w, -, o, -, rfl⟩ := exists_objection_of_callWatchers call
    exact .inr (.inr (kind_cause_objection o))

/-- A word is written into an unwatched mailbox, and nobody is called. -/
lemma write_of_watchers_eq_nil {m : Memory} (h : m.watchers = []) {a value : Int}
    (ha : IsAddress a) (hvalue : IsWord value) :
    m.write a value = ([], .ok { m with cells := m.cells.set a.toNat value }) := by
  have hnobody : m.watchersOf a = [] := by simp [watchersOf, h]
  rw [m.write_eq ha hvalue, hnobody]
  rfl

/-- A write registers no watcher and ends no registration. -/
lemma watchers_of_write {m m' : Memory} {a value : Int} (h : (m.write a value).2 = .ok m') :
    m'.watchers = m.watchers := by
  have hcases := m.write_cases a value
  generalize m.write a value = r at h hcases
  cases hcases with
  | noMailbox => cases h
  | notStorable => cases h
  | objected => cases h
  | written =>
    obtain rfl := Except.ok.inj h
    rfl

/-- What is read behind a write: the new word in its mailbox, and the words from before in all
others. -/
lemma read_set {m : Memory} (hlength : m.cells.length = 100) {a : Int} (ha : IsAddress a)
    (value b : Int) : read { m with cells := m.cells.set a.toNat value } b =
      if b = a then .ok value else m.read b := by
  unfold IsAddress at ha
  split
  · next hab =>
    subst hab
    have hlt : b.toNat < m.cells.length := by omega
    rw [read_eq_ok_iff]
    exact ⟨ha, by rw [List.getD_eq_getElem?_getD, List.getElem?_set_self hlt, Option.getD_some]⟩
  · next hab =>
    unfold read
    split
    · next hb =>
      unfold IsAddress at hb
      have hne : a.toNat ≠ b.toNat := by omega
      rw [List.getD_eq_getElem?_getD, List.getElem?_set_ne hne, ← List.getD_eq_getElem?_getD]
    · rfl

/-! ### Loading -/

/-- An image is taken exactly if all its entries are words. -/
lemma imageWords_eq_ok_iff (index : Nat) (image : List Datum) (words : List Int) :
    imageWords index image = .ok words ↔ image.map Datum.word? = words.map some := by
  induction image generalizing index words with
  | nil => cases words <;> simp [imageWords]
  | cons d image ih => exact words_cons_eq_ok_iff (ih (index + 1)) d _ words

/-- Loading takes up to a hundred words and pads them with zeros. -/
lemma load_eq_ok_iff (m m' : Memory) (image : List Datum) :
    m.load image = .ok m' ↔ image.length ≤ 100 ∧
      ∃ words : List Int, image.map Datum.word? = words.map some ∧
        m' = { m with cells := padded words } := by
  unfold load
  have hcount : mailboxCount = 100 := rfl
  split
  · next hlong =>
    rw [hcount] at hlong
    simp only [reduceCtorEq, false_iff, not_and]
    omega
  · next hshort =>
    rw [hcount] at hshort
    rw [map_eq_ok_iff]
    simp only [imageWords_eq_ok_iff, eq_comm (b := m')]
    exact ⟨fun h => ⟨by omega, h⟩, fun h => h.2⟩

/-- Up to a hundred integers that are words are loaded. -/
lemma load_integers (m : Memory) {words : List Int} (hlength : words.length ≤ 100)
    (hwords : ∀ w ∈ words, IsWord w) :
    m.load (words.map .integer) = .ok { m with cells := padded words } := by
  rw [load_eq_ok_iff]
  exact ⟨by rwa [List.length_map], words, Datum.map_word?_integers hwords, rfl⟩

/-- An image that is not taken is too long, or it has an entry that is refused. -/
lemma cause_of_load {m : Memory} {image : List Datum} {cause : Fault.Cause}
    (h : m.load image = .error cause) : cause = .imageTooLong image.length ∨
      ∃ d ∈ image, ∃ index, cause = .badImageEntry index d := by
  have hwords : ∀ index, imageWords index image = .error cause →
      ∃ d ∈ image, ∃ index, cause = .badImageEntry index d := by
    clear h
    induction image with
    | nil => exact fun _ => nofun
    | cons d image ih =>
      intro index h
      unfold imageWords at h
      split at h
      · obtain ⟨d', hmem, hcause⟩ := ih (index + 1) (map_eq_error_iff.mp h)
        exact ⟨d', List.mem_cons_of_mem d hmem, hcause⟩
      · exact ⟨d, List.mem_cons_self, index, (Except.error.inj h).symm⟩
  unfold load at h
  split at h
  · exact .inl (Except.error.inj h).symm
  · exact .inr (hwords 0 (map_eq_error_iff.mp h))

/-- Loading keeps the registrations of watchers. -/
lemma watchers_of_load {m m' : Memory} {image : List Datum} (h : m.load image = .ok m') :
    m'.watchers = m.watchers := by
  obtain ⟨-, words, -, rfl⟩ := (m.load_eq_ok_iff m' image).mp h
  rfl

/-- A watcher is registered exactly for an address. -/
lemma watch_eq_ok_iff (m m' : Memory) (a : Int) (w : Watcher) :
    m.watch a w = .ok m' ↔ IsAddress a ∧ m' = { m with watchers := m.watchers ++ [(a, w)] } := by
  unfold watch
  split
  · next h => simp [h, eq_comm]
  · next h => simp [h]

/-! ### Words in all mailboxes -/

/-- A hundred mailboxes with a word in each. -/
structure HoldsWords (m : Memory) : Prop where
  length_eq : m.cells.length = 100
  isWord : ∀ w ∈ m.cells, IsWord w

/-- Zero is a word. -/
lemma isWord_zero : IsWord 0 := by decide

/-- Empty mailboxes hold words. -/
lemma holdsWords_of_zeros (watchers : List (Int × Watcher)) :
    HoldsWords { cells := List.replicate mailboxCount 0, watchers } :=
  ⟨List.length_replicate, fun _ hw => List.eq_of_mem_replicate hw ▸ isWord_zero⟩

/-- Words padded with zeros are held as words. -/
lemma holdsWords_of_padded {words : List Int} (hlength : words.length ≤ 100)
    (hwords : ∀ w ∈ words, IsWord w) (watchers : List (Int × Watcher)) :
    HoldsWords { cells := padded words, watchers } := by
  constructor
  · exact length_padded hlength
  · intro w hw
    rcases List.mem_append.mp hw with hw | hw
    · exact hwords w hw
    · exact List.eq_of_mem_replicate hw ▸ isWord_zero

section

variable {m m' : Memory}

/-- What is read is a word. -/
lemma HoldsWords.isWord_of_read (h : m.HoldsWords) {a w : Int} (hread : m.read a = .ok w) :
    IsWord w := by
  obtain ⟨-, rfl⟩ := (m.read_eq_ok_iff a w).mp hread
  rw [List.getD_eq_getElem?_getD]
  cases hget : m.cells[a.toNat]? with
  | none => exact isWord_zero
  | some v => exact h.isWord v (List.mem_of_getElem? hget)

/-- A write keeps words in all mailboxes. -/
lemma HoldsWords.of_write (h : m.HoldsWords) {a value : Int} {calls : List Sighting}
    (hwrite : m.write a value = (calls, .ok m')) : m'.HoldsWords := by
  have hcases := m.write_cases a value
  rw [hwrite] at hcases
  cases hcases with
  | written address word calls call =>
    refine ⟨by simpa using h.length_eq, fun w hw => ?_⟩
    rcases List.mem_or_eq_of_mem_set hw with hw | rfl
    · exact h.isWord w hw
    · exact word

/-- Registrations of watchers do not matter. -/
lemma HoldsWords.withWatchers (h : m.HoldsWords) (watchers : List (Int × Watcher)) :
    HoldsWords { m with watchers } :=
  ⟨h.length_eq, h.isWord⟩

/-- A memory that was loaded holds words. -/
lemma holdsWords_of_load {image : List Datum} (hload : m.load image = .ok m') :
    m'.HoldsWords := by
  obtain ⟨hlength, words, hwords, rfl⟩ := (m.load_eq_ok_iff m' image).mp hload
  have heq : words.length = image.length := by simpa using (congrArg List.length hwords).symm
  exact holdsWords_of_padded (heq ▸ hlength) (isWord_of_map_word? hwords) m.watchers

end

end Memory

namespace InputTray

/-- A list of inputs is taken exactly if all its entries are words. -/
lemma inputWords_eq_ok_iff (inputs : List Datum) (words : List Int) :
    inputWords inputs = .ok words ↔ inputs.map Datum.word? = words.map some := by
  induction inputs generalizing words with
  | nil => cases words <;> simp [inputWords]
  | cons d inputs ih => exact words_cons_eq_ok_iff ih d _ words

/-- Injected inputs are words, put behind those that wait. -/
lemma inject_eq_ok_iff (tray tray' : InputTray) (inputs : List Datum) :
    tray.inject inputs = .ok tray' ↔ ∃ words : List Int,
      inputs.map Datum.word? = words.map some ∧ tray' = ⟨tray.pending ++ words⟩ := by
  unfold inject
  rw [map_eq_ok_iff]
  simp only [inputWords_eq_ok_iff, eq_comm (b := tray')]

/-- Inputs that are not taken have one that is refused. -/
lemma cause_of_inject {tray : InputTray} {inputs : List Datum} {cause : Fault.Cause}
    (h : tray.inject inputs = .error cause) : ∃ d ∈ inputs, cause = .badInput d := by
  have hwords : inputWords inputs = .error cause := map_eq_error_iff.mp h
  clear h
  induction inputs with
  | nil => cases hwords
  | cons d inputs ih =>
    unfold inputWords at hwords
    split at hwords
    · obtain ⟨d', hmem, hcause⟩ := ih (map_eq_error_iff.mp hwords)
      exact ⟨d', List.mem_cons_of_mem d hmem, hcause⟩
    · exact ⟨d, List.mem_cons_self, (Except.error.inj hwords).symm⟩

/-- The value that is popped is the front one. -/
lemma pop_eq_ok_iff (tray tray' : InputTray) (value : Int) :
    tray.pop = .ok (value, tray') ↔ tray.pending = value :: tray'.pending := by
  unfold pop
  cases h : tray.pending with
  | nil => simp
  | cons v rest =>
    obtain ⟨rest'⟩ := tray'
    simp

/-- Popping fails exactly on an empty tray. -/
lemma pop_eq_error_iff (tray : InputTray) (cause : Fault.Cause) :
    tray.pop = .error cause ↔ tray.pending = [] ∧ cause = .trayEmpty := by
  unfold pop
  cases h : tray.pending with
  | nil => simp [eq_comm]
  | cons v rest => simp

section

variable {tray tray' : InputTray}

/-- What waits on a tray after an injection has waited before or is a word. -/
lemma mem_pending_of_inject {inputs : List Datum} (h : tray.inject inputs = .ok tray') :
    ∀ w ∈ tray'.pending, w ∈ tray.pending ∨ IsWord w := by
  obtain ⟨words, hwords, rfl⟩ := (tray.inject_eq_ok_iff tray' inputs).mp h
  intro w hw
  rcases List.mem_append.mp hw with hw | hw
  · exact Or.inl hw
  · exact Or.inr (isWord_of_map_word? hwords w hw)

/-- What waits on a tray behind a value that is popped has waited before. -/
lemma mem_pending_of_pop {value : Int} (h : tray.pop = .ok (value, tray')) :
    ∀ w ∈ tray'.pending, w ∈ tray.pending := by
  rw [(tray.pop_eq_ok_iff tray' value).mp h]
  exact fun w hw => List.mem_cons_of_mem value hw

end

end InputTray

/-- A value that is pushed comes last. -/
@[simp] lemma OutputTray.toList_push (tray : OutputTray) (value : Int) :
    (tray.push value).values.toList = tray.values.toList ++ [value] := by
  simp [push]

end LittleMan
