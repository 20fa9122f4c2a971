import LittleMan.Batch.Outcome
import LittleMan.Proofs.Machine.Looking
import LittleMan.Proofs.Machine.Program

/-!
# What influences a program

A program is influenced by the mailboxes that its run looks at, and by no other one. If two images
have the same words there, then executing them and trying them with a record comes to the same
(`BehavesAlike`), whatever they hold elsewhere (`unlooked_irrelevant`). An image that is shorter
than the memory has zeros behind its end; so it can be continued with any words, if only those in
mailboxes that are looked at are zeros.

The two programs start from machines that agree on these mailboxes, and are fed alike. The rest is
said of their runs (`Machine.run_agreeOn`).
-/

namespace LittleMan

namespace Batch

open Machine

/-- The run of a program looks at a mailbox. A program that is not taken looks at none. -/
def LooksAt (image inputs : List Datum) (n a : Int) : Prop :=
  ∃ ready, Prepared image inputs ready ∧ a ∈ lookedAt n.toNat ready

/-- The run of a program stores to a mailbox. -/
def StoresTo (image inputs : List Datum) (n a : Int) : Prop :=
  ∃ ready, Prepared image inputs ready ∧ ∃ s ∈ stores n.toNat ready, s.address = a

/-- Two images come to the same with these inputs within this budget, and leave the same but for
mailboxes to which the run of the first has nothing to do. -/
structure BehavesAlike (image image' inputs : List Datum) (n : Int) : Prop where
  execute : execute image inputs n = LittleMan.execute image' inputs n
  trial : ∀ record : Record, record.inputs = inputs → record.budget.getD defaultBudget = n →
    (trial image record).2 = (Batch.trial image' record).2
  ended : (runProgram {} image inputs n).2 = (runProgram {} image' inputs n).2
  registers : (runProgram {} image inputs n).1.registers =
    (runProgram {} image' inputs n).1.registers
  input : (runProgram {} image inputs n).1.input = (runProgram {} image' inputs n).1.input
  output : (runProgram {} image inputs n).1.output = (runProgram {} image' inputs n).1.output
  memory : ∀ a, LooksAt image inputs n a ∨ StoresTo image inputs n a →
    (runProgram {} image inputs n).1.memory.read a =
      (runProgram {} image' inputs n).1.memory.read a

section

variable {image image' inputs : List Datum} {n : Int}

/-- What is executed comes to the end of the run and what was written. -/
lemma execute_congr (hended : (runProgram {} image inputs n).2 = (runProgram {} image' inputs n).2)
    (houtput : (runProgram {} image inputs n).1.output =
      (runProgram {} image' inputs n).1.output) :
    execute image inputs n = execute image' inputs n := by
  unfold execute
  generalize runProgram {} image inputs n = r at hended houtput
  generalize runProgram {} image' inputs n = r' at hended houtput
  obtain ⟨after, ended⟩ := r
  obtain ⟨after', ended'⟩ := r'
  obtain rfl : ended = ended' := hended
  cases ended with
  | error e => rfl
  | ok r =>
    have houtputs : after.outputs = after'.outputs := congrArg (·.values.toList) houtput
    simp only [houtputs]

/-- The outcome of a trial is read off the end of the run, what was written and the count. -/
lemma trial_congr {record : Record} (hinputs : record.inputs = inputs)
    (hbudget : record.budget.getD defaultBudget = n)
    (hended : (runProgram {} image inputs n).2 = (runProgram {} image' inputs n).2)
    (houtput : (runProgram {} image inputs n).1.output =
      (runProgram {} image' inputs n).1.output)
    (hregisters : (runProgram {} image inputs n).1.registers =
      (runProgram {} image' inputs n).1.registers) :
    (trial image record).2 = (trial image' record).2 := by
  unfold trial
  rw [hinputs, hbudget]
  generalize runProgram {} image inputs n = r at hended houtput hregisters
  generalize runProgram {} image' inputs n = r' at hended houtput hregisters
  obtain ⟨after, ended⟩ := r
  obtain ⟨after', ended'⟩ := r'
  obtain rfl : ended = ended' := hended
  have hwritten : after.output = after'.output := houtput
  have hcount : after.registers = after'.registers := hregisters
  have houtputs : after.outputs = after'.outputs := congrArg (·.values.toList) houtput
  rcases ended with (f | budget | o) | r
  · simp only [Outcome.ofFault, hwritten, hcount, houtputs]
  · rfl
  · rfl
  · simp only [Outcome.ofRun, hwritten, houtputs]

/-- Images behave alike if their runs come to the same and leave the same. -/
lemma BehavesAlike.of_ended
    (hended : (runProgram {} image inputs n).2 = (runProgram {} image' inputs n).2)
    (hregisters : (runProgram {} image inputs n).1.registers =
      (runProgram {} image' inputs n).1.registers)
    (hinput : (runProgram {} image inputs n).1.input = (runProgram {} image' inputs n).1.input)
    (houtput : (runProgram {} image inputs n).1.output =
      (runProgram {} image' inputs n).1.output)
    (hmemory : ∀ a, LooksAt image inputs n a ∨ StoresTo image inputs n a →
      (runProgram {} image inputs n).1.memory.read a =
        (runProgram {} image' inputs n).1.memory.read a) :
    BehavesAlike image image' inputs n where
  execute := execute_congr hended houtput
  trial := fun _ hinputs hbudget => trial_congr hinputs hbudget hended houtput hregisters
  ended := hended
  registers := hregisters
  input := hinput
  output := houtput
  memory := hmemory

end

/-! ### Programs of words -/

/-- A new machine with a program of words loaded. -/
def loadedWith (words : List Int) : Machine :=
  ({ memory := { cells := padded words } } : Machine).note (.loadedImage words.length)

section

variable {words words' : List Int} {inputs : List Datum} {n : Int}

/-- What is read in a mailbox of a loaded program. -/
lemma read_loadedWith (words : List Int) (a : Int) : (loadedWith words).memory.read a =
    if IsAddress a then .ok (words.getD a.toNat 0) else .error (.noMailbox a) := by
  rw [← getD_padded]
  rfl

/-- A program of words is run if its inputs are taken. -/
lemma runProgram_loadedWith (hlength : words.length ≤ mailboxCount)
    (hwords : ∀ w ∈ words, IsWord w) (inputs : List Datum) (n : Int) :
    runProgram {} (words.map .integer) inputs n = match InputTray.inject {} inputs with
      | .error cause => (loadedWith words, .error (.fault { cause }))
      | .ok input => Machine.run { loadedWith words with input } n := by
  have hinject : (loadedWith words).inject inputs = match InputTray.inject {} inputs with
      | .error cause => .error { cause }
      | .ok input => .ok { loadedWith words with input } := rfl
  have hload : load {} (words.map .integer) = .ok (loadedWith words) :=
    Machine.load_integers {} hlength hwords
  unfold runProgram
  simp only [hload, hinject]
  cases InputTray.inject {} inputs <;> rfl

/-- The machine that it is run from. -/
lemma prepared_loadedWith (hlength : words.length ≤ mailboxCount)
    (hwords : ∀ w ∈ words, IsWord w) {input : InputTray}
    (hinject : InputTray.inject {} inputs = .ok input) :
    Prepared (words.map .integer) inputs { loadedWith words with input } := by
  refine ⟨loadedWith words, Machine.load_integers {} hlength hwords, ?_⟩
  rw [inject_eq_ok_iff]
  exact ⟨input, hinject, rfl⟩

/-- It is not run if its inputs are refused. -/
lemma not_prepared_loadedWith (hlength : words.length ≤ mailboxCount)
    (hwords : ∀ w ∈ words, IsWord w) {cause : Fault.Cause}
    (hinject : InputTray.inject {} inputs = .error cause) :
    ¬ ∃ ready, Prepared (words.map .integer) inputs ready := by
  have hload : load {} (words.map .integer) = .ok (loadedWith words) :=
    Machine.load_integers {} hlength hwords
  have hrefused : (loadedWith words).input.inject inputs = .error cause := hinject
  apply not_prepared_of_inject (f := { cause }) hload
  unfold inject
  rw [hrefused]

/-- Programs that have the same words in some mailboxes agree on them when they are loaded and
fed. -/
lemma agreeOn_loadedWith {addresses : List Int} (hlength : words.length ≤ mailboxCount)
    (hlength' : words'.length ≤ mailboxCount)
    (hagree : ∀ a ∈ addresses, IsAddress a → words.getD a.toNat 0 = words'.getD a.toNat 0)
    (input : InputTray) :
    AgreeOn addresses { loadedWith words with input } { loadedWith words' with input } where
  registers := rfl
  input := rfl
  output := rfl
  memory := {
    watchers := rfl
    blind := fun _ _ hmem => absurd hmem List.not_mem_nil
    length_eq := length_padded hlength
    length_eq' := length_padded hlength'
    read := by
      intro a ha
      change (loadedWith words).memory.read a = (loadedWith words').memory.read a
      rw [read_loadedWith, read_loadedWith]
      split
      · next haddress => rw [hagree a ha haddress]
      · rfl }

/-- Programs that have the same words in all mailboxes that the one looks at behave alike. -/
theorem behavesAlike_of_agree (hlength : words.length ≤ mailboxCount)
    (hwords : ∀ w ∈ words, IsWord w) (hlength' : words'.length ≤ mailboxCount)
    (hwords' : ∀ w ∈ words', IsWord w)
    (hagree : ∀ a, IsAddress a → LooksAt (words.map .integer) inputs n a →
      words.getD a.toNat 0 = words'.getD a.toNat 0) :
    BehavesAlike (words.map .integer) (words'.map .integer) inputs n := by
  have hrun := runProgram_loadedWith hlength hwords inputs n
  have hrun' := runProgram_loadedWith hlength' hwords' inputs n
  cases hinject : InputTray.inject {} inputs with
  | error cause =>
    rw [hinject] at hrun hrun'
    have hnone := not_prepared_loadedWith hlength hwords hinject
    apply BehavesAlike.of_ended
    · rw [hrun, hrun']
    · rw [hrun, hrun']
      rfl
    · rw [hrun, hrun']
      rfl
    · rw [hrun, hrun']
      rfl
    · rintro a (⟨ready, prepared, -⟩ | ⟨ready, prepared, -⟩)
      · exact absurd ⟨ready, prepared⟩ hnone
      · exact absurd ⟨ready, prepared⟩ hnone
  | ok input =>
    rw [hinject] at hrun hrun'
    have hprepared := prepared_loadedWith hlength hwords hinject
    have hready : AgreeOn (lookedAt n.toNat { loadedWith words with input })
        { loadedWith words with input } { loadedWith words' with input } := by
      apply agreeOn_loadedWith hlength hlength'
      intro a ha haddress
      exact hagree a haddress ⟨_, hprepared, ha⟩
    obtain ⟨hafter, hended⟩ := run_agreeOn hready
    apply BehavesAlike.of_ended
    · rw [hrun, hrun']
      exact hended
    · rw [hrun, hrun']
      exact hafter.registers
    · rw [hrun, hrun']
      exact hafter.input
    · rw [hrun, hrun']
      exact hafter.output
    · intro a ha
      rw [hrun, hrun']
      apply hready.read_run
      rcases ha with ⟨ready, prepared, hlooked⟩ | ⟨ready, prepared, hstored⟩
      · obtain rfl := hprepared.unique prepared
        exact .inl hlooked
      · obtain rfl := hprepared.unique prepared
        exact .inr hstored

/-- Words behind the end of a program do not matter where they are zeros or not looked at. -/
lemma getD_append_of_zeros {more : List Int} {a : Int}
    (hzero : ∀ (k : Nat) w, more[k]? = some w → a = words.length + k → w = 0) (ha : 0 ≤ a) :
    words.getD a.toNat 0 = (words ++ more).getD a.toNat 0 := by
  by_cases hlt : a.toNat < words.length
  · exact (List.getD_append _ _ _ _ hlt).symm
  · have hle : words.length ≤ a.toNat := Nat.le_of_not_lt hlt
    rw [List.getD_append_right _ _ _ _ hle, List.getD_eq_default _ _ hle,
      List.getD_eq_getElem?_getD]
    cases hget : more[a.toNat - words.length]? with
    | none => rfl
    | some w =>
      have haddress : a = words.length + ((a.toNat - words.length : Nat) : Int) := by omega
      exact (hzero _ w hget haddress).symm

end

/-- Only the mailboxes that its run looks at influence a program. An image that has the same words
there comes to the same, whether it is executed or tried, and leaves the same registers, trays and
words, in these mailboxes and in those that are stored to. So does an image with words added behind
its end, if those that are looked at are zeros. -/
theorem unlooked_irrelevant (words : List Int) (inputs : List Datum) (n : Int)
    (hlength : words.length ≤ mailboxCount) (hwords : ∀ w ∈ words, IsWord w) :
    (∀ words' : List Int, words'.length ≤ mailboxCount → (∀ w ∈ words', IsWord w) →
      (∀ a, IsAddress a → LooksAt (words.map .integer) inputs n a →
        words.getD a.toNat 0 = words'.getD a.toNat 0) →
      BehavesAlike (words.map .integer) (words'.map .integer) inputs n) ∧
    ∀ more : List Int, (words ++ more).length ≤ mailboxCount → (∀ w ∈ more, IsWord w) →
      (∀ (k : Nat) w, more[k]? = some w →
        LooksAt (words.map .integer) inputs n (words.length + k) → w = 0) →
      BehavesAlike (words.map .integer) ((words ++ more).map .integer) inputs n := by
  refine ⟨?_, ?_⟩
  · intro words' hlength' hwords' hagree
    exact behavesAlike_of_agree hlength hwords hlength' hwords' hagree
  · intro more hlength' hmore hzero
    have hwords' : ∀ w ∈ words ++ more, IsWord w := List.forall_mem_append.mpr ⟨hwords, hmore⟩
    apply behavesAlike_of_agree hlength hwords hlength' hwords'
    intro a haddress ha
    apply getD_append_of_zeros
    · intro k w hget heq
      rw [heq] at ha
      exact hzero k w hget ha
    · exact haddress.1

/-- A program that copies a word and writes it: it looks at its four instructions and at the word,
not at the mailbox that it copies it to, nor at any other one. -/
theorem unlooked_irrelevant_copying :
    BehavesAlike ([505, 306, 902, 0, 0, 42].map .integer)
      ([505, 306, 902, 0, 777, 42, 888].map .integer) [] 9 ∧
    BehavesAlike ([505, 306, 902, 0, 0, 42].map .integer)
      (([505, 306, 902, 0, 0, 42] ++ [888]).map .integer) [] 9 := by
  have hlength : [505, 306, 902, 0, 0, 42].length ≤ mailboxCount := by decide
  have hwords : ∀ w ∈ [505, 306, 902, 0, 0, 42], IsWord w := by decide
  have hlooks : ∀ a, LooksAt ([505, 306, 902, 0, 0, 42].map .integer) [] 9 a →
      a ∈ [0, 5, 1, 2, 3] := by
    rintro a ⟨ready, prepared, ha⟩
    have hready : Prepared ([505, 306, 902, 0, 0, 42].map .integer) []
        { loadedWith [505, 306, 902, 0, 0, 42] with input := {} } :=
      prepared_loadedWith hlength hwords rfl
    obtain rfl := prepared.unique hready
    have hlooked : lookedAt (Int.toNat 9)
        { loadedWith [505, 306, 902, 0, 0, 42] with input := {} } = [0, 5, 1, 2, 3] := by decide
    rwa [hlooked] at ha
  obtain ⟨hother, hlonger⟩ := unlooked_irrelevant [505, 306, 902, 0, 0, 42] [] 9 hlength hwords
  refine ⟨?_, ?_⟩
  · apply hother [505, 306, 902, 0, 777, 42, 888] (by decide) (by decide)
    intro a _ ha
    have hword : ∀ b ∈ [0, 5, 1, 2, 3], [505, 306, 902, 0, 0, 42].getD (Int.toNat b) 0 =
        [505, 306, 902, 0, 777, 42, 888].getD (Int.toNat b) (0 : Int) := by decide
    exact hword a (hlooks a ha)
  · apply hlonger [888] (by decide) (by decide)
    intro k w hget ha
    have hk : k = 0 := by
      obtain ⟨hlt, -⟩ := List.getElem?_eq_some_iff.mp hget
      exact Nat.lt_one_iff.mp hlt
    subst hk
    exact absurd (hlooks _ ha) (by decide)

end Batch

end LittleMan
