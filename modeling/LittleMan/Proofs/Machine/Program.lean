import LittleMan.Proofs.Machine.Reports

/-!
# Programs

A program that is executed on a new machine goes through three stages, and it can fail in each of
them: its image is loaded, its inputs are put on the tray, and it is run. `ProgramCases` lists where
it got to: every execution is one of its cases (`program_cases`), and each case is what the
execution comes to (`ProgramCases.runProgram_eq`). A program that gets as far as a run starts from
one machine only (`Prepared.unique`), which has its registers at power-on and has written nothing
(`Prepared.fresh`).

Nobody watches such a machine, so that in every stage a program fails in a way of the machine's own,
and the fault can be put into words if the data of the program and its budget can be
(`ProgramCases.isOwn`).
-/

namespace LittleMan

namespace Machine

/-- A new machine with an image loaded and a list of inputs on its tray. -/
def Prepared (image inputs : List Datum) (ready : Machine) : Prop :=
  ∃ loaded, load {} image = .ok loaded ∧ loaded.inject inputs = .ok ready

/-- Where a program can get to, and what comes of it. -/
inductive ProgramCases (image inputs : List Datum) (budget : Nat) :
    Machine × Except Error Run → Prop where
  /-- The image is refused. -/
  | unloaded (f : Fault) (load : load {} image = .error f) :
      ProgramCases image inputs budget ({}, .error (.fault f))
  /-- The inputs are refused. -/
  | unfed (loaded : Machine) (f : Fault) (load : load {} image = .ok loaded)
      (inject : loaded.inject inputs = .error f) :
      ProgramCases image inputs budget (loaded, .error (.fault f))
  /-- The program is run. -/
  | ran (ready : Machine) (prepared : Prepared image inputs ready)
      (ended : Machine × Except Fault Run) (run : RunCases ready budget ended) :
      ProgramCases image inputs budget (ended.1, ended.2.mapError .fault)

/-- What comes of a program is one of the cases. -/
theorem program_cases (image inputs : List Datum) (budget : Nat) :
    ProgramCases image inputs budget (runProgram {} image inputs budget) := by
  unfold runProgram
  split
  · next f hload => exact .unloaded f hload
  · next loaded hload =>
    split
    · next f hinject => exact .unfed loaded f hload hinject
    · next ready hinject =>
      rw [run_ofNat]
      exact .ran ready ⟨loaded, hload, hinject⟩ _ (ready.run_cases budget)

/-- Only a program that could be run is refused for a negative budget. Any other one comes to what
it comes to with no budget at all. -/
theorem runProgram_cases (image inputs : List Datum) (budget : Int) :
    ProgramCases image inputs budget.toNat (runProgram {} image inputs budget) ∨
    budget < 0 ∧ ∃ ready, Prepared image inputs ready ∧
      runProgram {} image inputs budget = (ready, .error (.negativeBudget budget)) := by
  rcases Int.lt_or_le budget 0 with hneg | hbudget
  · unfold runProgram
    split
    · next f hload => exact .inl (.unloaded f hload)
    · next loaded hload =>
      split
      · next f hinject => exact .inl (.unfed loaded f hload hinject)
      · next ready hinject =>
        rw [run_of_neg ready hneg]
        exact .inr ⟨hneg, ready, ⟨loaded, hload, hinject⟩, rfl⟩
  · have hcases := program_cases image inputs budget.toNat
    rw [Int.toNat_of_nonneg hbudget] at hcases
    exact .inl hcases

section

variable {image inputs : List Datum} {loaded ready : Machine}

/-- A machine that has only been loaded has its registers at power-on and has written nothing. -/
lemma fresh_of_load (h : load {} image = .ok loaded) :
    loaded.registers = {} ∧ loaded.output = {} := by
  obtain ⟨memory, -, rfl⟩ := (load_eq_ok_iff _ loaded image).mp h
  exact ⟨rfl, rfl⟩

/-- So has a machine that has been loaded and fed. -/
lemma Prepared.fresh (h : Prepared image inputs ready) :
    ready.registers = {} ∧ ready.output = {} := by
  obtain ⟨loaded, hload, hinject⟩ := h
  obtain ⟨input, -, rfl⟩ := (inject_eq_ok_iff loaded ready inputs).mp hinject
  obtain ⟨hregisters, houtput⟩ := fresh_of_load hload
  exact ⟨hregisters, houtput⟩

/-- Its records tell of the image and of nothing else. -/
lemma Prepared.records (h : Prepared image inputs ready) :
    ready.trace = #[] ∧ ready.events = #[.loadedImage image.length] := by
  obtain ⟨loaded, hload, hinject⟩ := h
  obtain ⟨input, -, rfl⟩ := (inject_eq_ok_iff loaded ready inputs).mp hinject
  obtain ⟨memory, -, rfl⟩ := (load_eq_ok_iff _ loaded image).mp hload
  exact ⟨rfl, rfl⟩

/-- There is at most one such machine. -/
lemma Prepared.unique {ready' : Machine} (h : Prepared image inputs ready)
    (h' : Prepared image inputs ready') : ready = ready' := by
  obtain ⟨loaded, hload, hinject⟩ := h
  obtain ⟨loaded', hload', hinject'⟩ := h'
  obtain rfl : loaded = loaded' := Except.ok.inj (hload.symm.trans hload')
  exact Except.ok.inj (hinject.symm.trans hinject')

/-- There is none if the image is refused. -/
lemma not_prepared_of_load {f : Fault} (h : load {} image = .error f) :
    ¬ ∃ ready, Prepared image inputs ready := by
  rintro ⟨ready, loaded, hload, -⟩
  cases h.symm.trans hload

/-- There is none if the inputs are refused. -/
lemma not_prepared_of_inject {f : Fault} (h : load {} image = .ok loaded)
    (h' : loaded.inject inputs = .error f) : ¬ ∃ ready, Prepared image inputs ready := by
  rintro ⟨ready, loaded', hload, hinject⟩
  obtain rfl : loaded = loaded' := Except.ok.inj (h.symm.trans hload)
  cases h'.symm.trans hinject

/-- A machine that has been loaded and fed is in range, and nobody watches it. -/
lemma Prepared.inRange (h : Prepared image inputs ready) :
    ready.InRange ∧ ready.memory.watchers = [] := by
  obtain ⟨loaded, hload, hinject⟩ := h
  obtain ⟨memory, hmemory, rfl⟩ := (load_eq_ok_iff _ loaded image).mp hload
  obtain ⟨input, hinput, rfl⟩ := (inject_eq_ok_iff _ ready inputs).mp hinject
  have hpending : ∀ w ∈ input.pending, IsWord w := fun w hw =>
    (InputTray.mem_pending_of_inject hinput w hw).elim (fun hmem => absurd hmem List.not_mem_nil) id
  exact ⟨⟨⟨⟨Memory.holdsWords_of_load hmemory, hpending⟩, inRange_new.acc, inRange_new.pc⟩,
    inRange_new.outputs, inRange_new.cycles⟩, Memory.watchers_of_load hmemory⟩

end

/-! ### Faults of programs -/

/-- The data that are shown where they are no words can be shown. -/
def AreShowable (data : List Datum) : Prop :=
  ∀ d ∈ data, d.isWritable = true

section

variable {image inputs : List Datum} {m loaded : Machine} {f : Fault}

/-- An image that is refused is a fault of the machine's own, which shows one of its entries or
none. -/
lemma isOwn_of_load (h : load m image = .error f) :
    f.kind.isOwn = true ∧ (AreShowable image → f.isWritable = true) := by
  unfold load at h
  split at h
  · next cause hrefused =>
    obtain rfl := Except.error.inj h
    obtain rfl | ⟨d, hd, index, rfl⟩ := Memory.cause_of_load hrefused
    · exact ⟨rfl, fun _ => rfl⟩
    · refine ⟨rfl, fun himage => ?_⟩
      change (d.isWritable && true && true) = true
      rw [himage d hd]
      rfl
  · cases h

/-- So are inputs that are refused. -/
lemma isOwn_of_inject (h : m.inject inputs = .error f) :
    f.kind.isOwn = true ∧ (AreShowable inputs → f.isWritable = true) := by
  unfold inject at h
  split at h
  · next cause hrefused =>
    obtain rfl := Except.error.inj h
    obtain ⟨d, hd, rfl⟩ := InputTray.cause_of_inject hrefused
    refine ⟨rfl, fun hinputs => ?_⟩
    change (d.isWritable && true && true) = true
    rw [hinputs d hd]
    rfl
  · cases h

variable {budget : Nat} {after : Machine}

/-- A program fails in a way of the machine's own, which can be put into words if the data of the
program and its budget can be. -/
theorem ProgramCases.isOwn (h : ProgramCases image inputs budget (after, .error (.fault f))) :
    f.kind.isOwn = true ∧ (AreShowable image → AreShowable inputs →
      Text.isWritable budget = true → f.isWritable = true) := by
  generalize hended : (after, (.error (.fault f) : Except Error Run)) = ended at h
  cases h with
  | unloaded f' load =>
    obtain rfl := Error.fault.inj (Except.error.inj (Prod.mk.inj hended).2)
    obtain ⟨hkind, hwritable⟩ := isOwn_of_load load
    exact ⟨hkind, fun himage _ _ => hwritable himage⟩
  | unfed loaded f' load inject =>
    obtain rfl := Error.fault.inj (Except.error.inj (Prod.mk.inj hended).2)
    obtain ⟨hkind, hwritable⟩ := isOwn_of_inject inject
    exact ⟨hkind, fun _ hinputs _ => hwritable hinputs⟩
  | ran ready prepared ended run =>
    cases run with
    | halt => cases hended
    | timeout => cases hended
    | fault k before failed f' lt completes step =>
      obtain rfl := Error.fault.inj (Except.error.inj (Prod.mk.inj hended).2)
      obtain ⟨hrange, hunwatched⟩ := prepared.inRange
      have hstep : before.step.2 = .error f := by rw [step]
      refine ⟨hrange.isOwn_kind_of_completes hunwatched completes hstep, fun _ _ hbudget => ?_⟩
      have hcycles : ready.registers.cycles = 0 := by rw [prepared.fresh.1]
      have hstart : Text.isWritable ready.registers.cycles = true := by
        rw [hcycles]
        exact Text.isWritable_of_isWord (by decide)
      have hend : Text.isWritable (ready.registers.cycles + budget) = true := by
        rw [hcycles, Int.zero_add]
        exact hbudget
      exact (Bool.and_eq_true_iff.mp
        (hrange.isOwn_of_completes hunwatched hstart hend lt completes hstep)).2

end

end Machine

end LittleMan
