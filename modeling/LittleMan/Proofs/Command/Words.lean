import LittleMan.Proofs.Command.CommandLine
import LittleMan.Proofs.Text.Limit

/-!
# Where a command comes from

Nothing in a command is made up: the files that it names, and the inputs of a run, are words of the
command line, or ends of words where a value stands in the word of its option; a text that is not
given is empty. The budget of a run is read off a word, if it is given, and so it can be written
again (`Command.IsMadeOf`, `Invocation.isMadeOf_of_read`). What the words of a command line amount
to is made of them in the same way (`areMadeOf_items`), and gathering the items adds nothing.
-/

namespace LittleMan

namespace Arguments

/-- The text is the end of one of the words, or it is empty. -/
def IsEnd (words : List Text) (t : Text) : Prop :=
  t = [] ∨ ∃ word ∈ words, t <:+ word

/-- The texts of an item. -/
def Item.texts {κ : Type} : Item κ → List Text
  | set _ value => value.toList
  | position word => word.toList
  | command word rest => word :: rest
  | surplus | failure => []

/-- All texts of the items are ends of the words. -/
def AreMadeOf {κ : Type} (words : List Text) (items : List (Item κ)) : Prop :=
  ∀ item ∈ items, ∀ t ∈ item.texts, IsEnd words t

section

variable {words rest : List Text} {s t : Text}

lemma isEnd_nil (words : List Text) : IsEnd words [] :=
  .inl rfl

lemma isEnd_of_mem (h : t ∈ words) : IsEnd words t :=
  .inr ⟨t, h, List.suffix_rfl⟩

/-- The end of an end of a word is one itself. -/
lemma IsEnd.of_suffix (h : IsEnd words t) (hs : s <:+ t) : IsEnd words s := by
  rcases h with rfl | ⟨word, hword, ht⟩
  · exact .inl (List.suffix_nil.mp hs)
  · exact .inr ⟨word, hword, hs.trans ht⟩

/-- The ends of ends of words are ends of these words. -/
lemma IsEnd.trans (h : IsEnd rest t) (hrest : ∀ word ∈ rest, IsEnd words word) :
    IsEnd words t := by
  rcases h with rfl | ⟨word, hword, ht⟩
  · exact isEnd_nil words
  · exact (hrest word hword).of_suffix ht

section

variable {κ : Type} {switches : List (Switch κ)} {item : Item κ} {front back : List (Item κ)}
  {word value : Text} {o : Switch κ}

/-- A word that is kept is the word. -/
lemma isEnd_of_kept (h : IsEnd words word) : ∀ t ∈ (kept word).toList, IsEnd words t := by
  unfold kept
  split
  · exact List.forall_mem_nil _
  · exact List.forall_mem_singleton.mpr h

lemma areMadeOf_nil (words : List Text) : AreMadeOf (κ := κ) words [] :=
  List.forall_mem_nil _

lemma areMadeOf_cons : AreMadeOf words (item :: back) ↔
    (∀ t ∈ item.texts, IsEnd words t) ∧ AreMadeOf words back :=
  List.forall_mem_cons

/-- An item without texts adds none. -/
lemma AreMadeOf.cons_textless (h : AreMadeOf words back) (hitem : item.texts = []) :
    AreMadeOf words (item :: back) := by
  refine areMadeOf_cons.mpr ⟨?_, h⟩
  rw [hitem]
  exact List.forall_mem_nil _

lemma AreMadeOf.append (h : AreMadeOf words front) (h' : AreMadeOf words back) :
    AreMadeOf words (front ++ back) :=
  List.forall_mem_append.mpr ⟨h, h'⟩

/-! ### Options -/

/-- What stands behind a character is the end of a text. -/
lemma suffix_of_after? {c : Char} (h : Text.after? c t = some s) : s <:+ t := by
  unfold Text.after? at h
  split at h
  · cases h
  · next d behind hdrop =>
    obtain rfl := Option.some.inj h
    have hsuffix : d :: behind <:+ t := by
      rw [← hdrop]
      exact List.dropWhile_suffix _
    exact (List.suffix_cons d behind).trans hsuffix

/-- Where a word can be an option with its value, the value is the end of the word. -/
lemma suffix_of_mem_guesses (h : .joined o value ∈ guesses switches word) : value <:+ word := by
  unfold guesses at h
  split at h
  · obtain ⟨o', -, ho'⟩ := List.mem_map.mp h
    split at ho'
    · next behind hafter =>
      obtain ⟨-, rfl⟩ := Shape.joined.inj ho'
      exact suffix_of_after? hafter
    · cases ho'
  · obtain ⟨o', -, ho'⟩ := Option.map_eq_some_iff.mp (Option.mem_toList.mp h)
    obtain ⟨-, rfl⟩ := Shape.joined.inj ho'
    exact List.drop_suffix 2 word

/-- Where a word is an option with its value, the value is the end of the word. -/
lemma suffix_of_shape (h : shape switches word = .joined o value) : value <:+ word := by
  unfold shape at h
  split at h
  · cases h
  · split at h
    · cases h
    · split at h
      · cases h
      · split at h
        · cases h
        · split at h
          · next o' behind hfound hafter =>
            obtain ⟨-, rfl⟩ := Shape.joined.inj h
            exact suffix_of_after? hafter
          · split at h
            · next guess hguesses =>
              have hguess : .joined o value ∈ guesses switches word := by
                rw [hguesses, h]
                exact List.mem_cons_self
              exact suffix_of_mem_guesses hguess
            · split at h <;> cases h
            · cases h

/-- An option without value adds no text. -/
lemma AreMadeOf.behind {r : Reading κ} (h : AreMadeOf words r.1) (key : κ) :
    AreMadeOf words (r.behind key).1 := by
  unfold Reading.behind
  split
  · exact h
  · exact h.cons_textless rfl

/-- What an option amounts to with text behind its name is made of that text. -/
lemma areMadeOf_join (o : Switch κ) (h : IsEnd words value) :
    AreMadeOf words (join switches o value).1 := by
  induction value generalizing o with
  | nil =>
    unfold join
    split
    · exact areMadeOf_cons.mpr ⟨List.forall_mem_singleton.mpr h, areMadeOf_nil words⟩
    · exact (areMadeOf_nil words).cons_textless rfl
  | cons c value ih =>
    have hvalue := h.of_suffix (List.suffix_cons c value)
    unfold join
    split
    · exact areMadeOf_cons.mpr ⟨isEnd_of_kept h, areMadeOf_nil words⟩
    · split
      · exact (areMadeOf_nil words).cons_textless rfl
      · split
        · exact (areMadeOf_nil words).cons_textless rfl
        · next next hfound =>
          refine AreMadeOf.behind ?_ o.key
          split
          · split
            · exact areMadeOf_nil words
            · exact (areMadeOf_nil words).cons_textless rfl
          · exact ih next hvalue

/-! ### Items -/

/-- Words that are no options fill positions as they are, or with nothing. -/
lemma areMadeOf_fill (positions : Nat) (h : ∀ word ∈ rest, IsEnd words word) :
    AreMadeOf (κ := κ) words (fill positions rest) := by
  induction rest generalizing positions with
  | nil => cases positions <;> exact areMadeOf_nil words
  | cons word rest ih =>
    obtain ⟨hword, hrest⟩ := List.forall_mem_cons.mp h
    cases positions with
    | zero => exact (ih 0 hrest).cons_textless rfl
    | succ positions =>
      exact areMadeOf_cons.mpr ⟨isEnd_of_kept hword, ih positions hrest⟩

/-- So do the words behind two dashes. -/
lemma areMadeOf_fillBehind (filledLast : Bool) (positions : Nat)
    (h : ∀ word ∈ rest, IsEnd words word) :
    AreMadeOf (κ := κ) words (fillBehind filledLast positions rest) := by
  unfold fillBehind
  split
  · obtain ⟨hword, hrest⟩ := List.forall_mem_cons.mp h
    split
    · exact areMadeOf_fill _ h
    · exact areMadeOf_cons.mpr ⟨List.forall_mem_singleton.mpr hword, areMadeOf_fill _ hrest⟩
  · split
    · exact areMadeOf_fill _ h
    · exact (areMadeOf_fill _ h).cons_textless rfl

/-- What the words of a command line amount to is made of them. -/
theorem areMadeOf_items (switches : List (Switch κ)) (hasCommands : Bool) (p : Progress κ)
    (hwaiting : ∀ waiting ∈ p.waiting.toList, AreMadeOf words waiting.1)
    (h : ∀ word ∈ rest, IsEnd words word) :
    AreMadeOf words (items switches hasCommands p rest) := by
  induction rest generalizing p with
  | nil =>
    unfold items
    split
    · exact (areMadeOf_nil words).cons_textless rfl
    · exact areMadeOf_nil words
  | cons word rest ih =>
    obtain ⟨hword, hrest⟩ := List.forall_mem_cons.mp h
    have hgoesOn (positions : Nat) (filledLast : Bool) :
        AreMadeOf words (items switches hasCommands ⟨positions, filledLast, none⟩ rest) :=
      ih ⟨positions, filledLast, none⟩ (List.forall_mem_nil _) hrest
    have hwaits (positions : Nat) (before : List (Item κ)) (key : κ)
        (hbefore : AreMadeOf words before) :
        AreMadeOf words
          (items switches hasCommands ⟨positions, false, some (before, key)⟩ rest) :=
      ih ⟨positions, false, some (before, key)⟩ (List.forall_mem_singleton.mpr hbefore) hrest
    unfold items
    split
    · next before key hbefore _ =>
      have hset : AreMadeOf words (.set key (some word) ::
          items switches hasCommands ⟨p.positions, false, none⟩ rest) :=
        areMadeOf_cons.mpr ⟨List.forall_mem_singleton.mpr hword, hgoesOn _ _⟩
      exact (hwaiting (before, key) (Option.mem_toList.mpr hbefore)).append hset
    · exact (areMadeOf_nil words).cons_textless rfl
    · split
      · exact areMadeOf_cons.mpr
          ⟨List.forall_mem_cons.mpr ⟨hword, hrest⟩, areMadeOf_nil words⟩
      · split
        · exact (hgoesOn _ _).cons_textless rfl
        · exact areMadeOf_cons.mpr ⟨List.forall_mem_singleton.mpr hword, hgoesOn _ _⟩
    · split
      · exact (areMadeOf_nil words).cons_textless rfl
      · exact areMadeOf_fillBehind _ _ hrest
    · split
      · exact hwaits _ _ _ (areMadeOf_nil words)
      · exact (hgoesOn _ _).cons_textless rfl
    · next o value _ hshape =>
      have hjoin : AreMadeOf words (join switches o value).1 :=
        areMadeOf_join o (hword.of_suffix (suffix_of_shape hshape))
      split
      · next before key hread =>
        rw [hread] at hjoin
        exact hwaits _ _ _ hjoin
      · next before hread =>
        rw [hread] at hjoin
        exact hjoin.append (hgoesOn _ _)
    · exact (hgoesOn _ _).cons_textless rfl
    · exact (areMadeOf_nil words).cons_textless rfl

end

end

end Arguments

namespace Command

open Arguments

/-- The texts of a command: the files that it names, and the inputs of a run. -/
def texts : Command → List Text
  | asm source output _ => [source, output]
  | run program inputs _ _ _ => [program, inputs]
  | batch program tests => [program, tests]
  | disasm program _ => [program]
  | lacking _ program => [program]

/-- The budget of a command that is a run. -/
def budget? : Command → Option Int
  | run _ _ budget _ _ => some budget
  | _ => none

/-- A command whose texts are ends of the words, and whose budget can be written. -/
structure IsMadeOf (words : List Text) (command : Command) : Prop where
  texts : ∀ t ∈ command.texts, IsEnd words t
  budget : ∀ n ∈ command.budget?, Text.isWritable n = true

section

variable {words : List Text} {command : Command}

/-- What options can have for values. -/
structure Options.AreMadeOf (words : List Text) (o : Options) : Prop where
  output : IsEnd words o.output
  input : ∀ t ∈ o.input.toList, IsEnd words t
  budget : ∀ n ∈ o.budget, Text.isWritable n = true

/-- Options that are not given have an empty text for a value, or the default budget. -/
lemma Options.areMadeOf_default (words : List Text) : Options.AreMadeOf words {} where
  output := isEnd_nil words
  input := List.forall_mem_singleton.mpr (isEnd_nil words)
  budget n hn := by
    obtain rfl := Option.some.inj hn
    decide

/-- One more option has its value from the words. -/
lemma Options.AreMadeOf.set {o after : Options} (h : o.AreMadeOf words) {key : Key}
    {value : Option Text} (hvalue : ∀ t ∈ value.toList, IsEnd words t)
    (hset : o.set key value = some after) : after.AreMadeOf words := by
  have hgiven : IsEnd words (value.getD []) := by
    cases value with
    | none => exact isEnd_nil words
    | some t => exact hvalue t (List.mem_singleton_self t)
  cases key with
  | output =>
    obtain rfl := Option.some.inj hset
    exact ⟨hgiven, h.input, h.budget⟩
  | input =>
    obtain rfl := Option.some.inj hset
    exact ⟨h.output, hvalue, h.budget⟩
  | budget =>
    cases value with
    | none =>
      obtain rfl := Option.some.inj hset
      exact ⟨h.output, h.input, nofun⟩
    | some written =>
      obtain ⟨n, hn, rfl⟩ := Option.map_eq_some_iff.mp hset
      refine ⟨h.output, h.input, fun m hm => ?_⟩
      obtain rfl := Option.some.inj hm
      exact Text.isWritable_of_integer? hn
  | help | listing | trace | dump | all =>
    obtain rfl := Option.some.inj hset
    exact ⟨h.output, h.input, h.budget⟩

/-- A command has its texts from its positions and options, and its budget from the options. -/
lemma mem_of_make {name : Text} {form : Form} (hform : forms.lookup name = some form)
    {positions : List (Option Text)} {o : Options}
    (h : form.make positions o = .accepted command) :
    (∀ t ∈ command.texts, some t ∈ positions ∨ t = o.output ∨ o.input = some t) ∧
      ∀ n ∈ command.budget?, n ∈ o.budget := by
  have hmem : (name, form) ∈ forms := mem_of_lookup_eq_some hform
  unfold forms at hmem
  simp only [List.mem_cons, List.not_mem_nil, or_false, Prod.mk.injEq] at hmem
  rcases hmem with ⟨-, rfl⟩ | ⟨-, rfl⟩ | ⟨-, rfl⟩ | ⟨-, rfl⟩
  all_goals
    -- a form takes as many positions as its command has, and no other number of them
    dsimp only at h
    split at h
    all_goals first
      | obtain rfl := Meaning.accepted.inj h
        simp_all [texts, budget?]
      | cases h

/-- What the items of a command come to is made of what they are made of. -/
lemma isMadeOf_of_gather {make : List (Option Text) → Options → Meaning Command}
    (hmake : ∀ positions o, make positions o = .accepted command →
      (∀ t ∈ command.texts, some t ∈ positions ∨ t = o.output ∨ o.input = some t) ∧
        ∀ n ∈ command.budget?, n ∈ o.budget)
    {items : List (Item Key)} (hitems : Arguments.AreMadeOf words items)
    {positions : List (Option Text)} (hpositions : ∀ t, some t ∈ positions → IsEnd words t)
    {o : Options} (ho : o.AreMadeOf words)
    {surplus : Bool} (h : gather make positions o surplus items = .accepted command) :
    command.IsMadeOf words := by
  induction items generalizing positions o surplus with
  | nil =>
    cases surplus with
    | true => cases h
    | false =>
      obtain ⟨htexts, hbudget⟩ := hmake positions o h
      refine ⟨fun t ht => ?_, fun n hn => ho.budget n (hbudget n hn)⟩
      rcases htexts t ht with hmem | rfl | hinput
      · exact hpositions t hmem
      · exact ho.output
      · exact ho.input t (Option.mem_toList.mpr hinput)
  | cons item items ih =>
    obtain ⟨hitem, hbehind⟩ := areMadeOf_cons.mp hitems
    cases item with
    | failure => cases h
    | command => cases h
    | surplus => exact ih hbehind hpositions ho h
    | position word =>
      refine ih hbehind (fun t ht => ?_) ho h
      rcases List.mem_append.mp ht with ht | ht
      · exact hpositions t ht
      · exact hitem t (Option.mem_toList.mpr (List.mem_singleton.mp ht).symm)
    | set key value =>
      by_cases hkey : key = .help
      · subst hkey
        cases h
      · rw [gather_set make hkey] at h
        cases hset : o.set key value with
        | none =>
          rw [hset] at h
          cases h
        | some after =>
          rw [hset] at h
          exact ih hbehind hpositions (ho.set hitem hset) h

/-- A command is made of the words behind its name. -/
lemma isMadeOf_of_read {name : Text} (h : read name words = .accepted command) :
    command.IsMadeOf words := by
  unfold read at h
  split at h
  · cases h
  · next form hform =>
    dsimp only at h
    split at h
    · cases h
    · have hitems : Arguments.AreMadeOf words _ :=
        areMadeOf_items (helpSwitches ++ form.switches) false ⟨form.positions, false, none⟩
          (List.forall_mem_nil _) fun _ => isEnd_of_mem
      have hpositions : ∀ t, some t ∈ ([] : List (Option Text)) → IsEnd words t :=
        fun _ ht => absurd ht List.not_mem_nil
      exact isMadeOf_of_gather (fun _ _ => mem_of_make hform) hitems hpositions
        (Options.areMadeOf_default words) h

end

end Command

namespace Invocation

open Arguments

/-- What the items of a command line come to is made of what they are made of. -/
lemma isMadeOf_of_gather {words : List Text} {items : List (Item Key)}
    (hitems : AreMadeOf words items) {verbosity : Verbosity} {logFile : Text} {surplus : Bool}
    {i : Invocation} (h : gather verbosity logFile surplus items = .accepted i) :
    i.command.IsMadeOf words := by
  induction items generalizing verbosity logFile surplus with
  | nil => cases surplus <;> cases h
  | cons item items ih =>
    obtain ⟨hitem, hbehind⟩ := areMadeOf_cons.mp hitems
    cases item with
    | failure => cases h
    | position => cases h
    | surplus => exact ih hbehind h
    | command name rest =>
      obtain ⟨-, hrest⟩ := List.forall_mem_cons.mp hitem
      cases hread : Command.read name rest with
      | accepted command =>
        cases surplus with
        | true =>
          unfold gather at h
          rw [hread] at h
          cases h
        | false =>
          unfold gather at h
          rw [hread] at h
          obtain rfl := Meaning.accepted.inj h
          have hcommand := Command.isMadeOf_of_read hread
          exact ⟨fun t ht => (hcommand.texts t ht).trans hrest, hcommand.budget⟩
      | help | version | misuse =>
        unfold gather at h
        rw [hread] at h
        cases h
    | set key value =>
      cases key with
      | help | version => cases h
      | verbose | debug | quiet | logFile => exact ih hbehind h

/-- A command is made of the words of its command line. -/
theorem isMadeOf_of_read {words : List Text} {i : Invocation} (h : read words = .accepted i) :
    i.command.IsMadeOf words := by
  unfold read at h
  split at h
  · cases h
  · have hitems : AreMadeOf words _ :=
      areMadeOf_items switches true ⟨0, false, none⟩ (List.forall_mem_nil _)
        fun _ => isEnd_of_mem
    exact isMadeOf_of_gather hitems h

/-- So the budget of a run can be written. -/
lemma isWritable_budget {words : List Text} {i : Invocation} (h : read words = .accepted i)
    {program inputs : Text} {budget : Int} {trace dump : Bool}
    (hcommand : i.command = .run program inputs budget trace dump) :
    Text.isWritable budget = true := by
  have hmade := isMadeOf_of_read h
  rw [hcommand] at hmade
  exact hmade.budget budget rfl

end Invocation

end LittleMan
