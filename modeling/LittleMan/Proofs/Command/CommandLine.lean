import LittleMan.Command.Console
import LittleMan.Proofs.Command.FileTree
import LittleMan.Proofs.Command.ProgramFile

/-!
# Command lines on program files

A word names a file if no command takes it for an option; every word does that does not open with a
dash (`namesFile_of_head?_ne`). What stands behind such a word is read as if the word were not
there. So a command line that does something with a program file is read in the same way whichever
word names the file (`agree_read`).

From there on a source file and the machine code that was made of it are the same: after the
assembly of one into the other, the two files show the same on every command line
(`machineCode_interchangeable`).
-/

namespace LittleMan

namespace Arguments

section

variable {κ : Type} (switches : List (Switch κ)) {word : Text}

/-- A word that does not open with a dash is no option. -/
lemma shape_of_head?_ne (h : word.head? ≠ some '-') : shape switches word = .plain := by
  have hseparator : word ≠ ['-', '-'] := by
    rintro rfl
    exact h rfl
  unfold shape
  rw [if_neg hseparator, if_pos h]

variable {switches}

/-- A word that is no option is not the one behind which there are no options. -/
lemma ne_separator_of_plain (h : shape switches word = .plain) : word ≠ ['-', '-'] := by
  rintro rfl
  cases h

/-- A word that is not ambiguous, and hides no other one, makes no command line ambiguous. -/
lemma hasAmbiguity_cons (hseparator : word ≠ ['-', '-']) (h : shape switches word ≠ .ambiguous)
    (rest : List Text) : hasAmbiguity switches (word :: rest) = hasAmbiguity switches rest := by
  unfold hasAmbiguity
  rw [List.takeWhile_cons_of_pos (by simpa using hseparator), List.any_cons]
  split
  · next hshape => exact absurd hshape h
  · rw [Bool.false_or]

/-- A word that is no option is such a word. -/
lemma hasAmbiguity_cons_of_plain (h : shape switches word = .plain) (rest : List Text) :
    hasAmbiguity switches (word :: rest) = hasAmbiguity switches rest := by
  refine hasAmbiguity_cons (ne_separator_of_plain h) ?_ rest
  rw [h]
  exact nofun

/-- Neither is an option without anything behind its name. -/
lemma hasAmbiguity_cons_of_bare {s : Switch κ} (hseparator : word ≠ ['-', '-'])
    (h : shape switches word = .bare s) (rest : List Text) :
    hasAmbiguity switches (word :: rest) = hasAmbiguity switches rest := by
  refine hasAmbiguity_cons hseparator ?_ rest
  rw [h]
  exact nofun

/-- The first word that is no option is the name of a command if there are commands. -/
lemma items_command (h : shape switches word = .plain) (rest : List Text) :
    items switches true ⟨0, false, none⟩ (word :: rest) = [.command word rest] := by
  unfold items
  rw [h]
  rfl

/-- A word that is no option fills a position that is open. -/
lemma items_position (h : shape switches word = .plain) (positions : Nat) (rest : List Text) :
    items switches false ⟨positions + 1, false, none⟩ (word :: rest) =
      .position (some word) :: items switches false ⟨positions, true, none⟩ rest := by
  conv_lhs => unfold items
  rw [h]
  rfl

/-- A word behind an option that takes a value is the value, unless it is an option. -/
lemma items_value {option : Text} {s : Switch κ} (hoption : shape switches option = .bare s)
    (hvalue : s.takesValue = true) (h : shape switches word = .plain) (positions : Nat)
    (filledLast : Bool) (rest : List Text) :
    items switches false ⟨positions, filledLast, none⟩ (option :: word :: rest) =
      .set s.key (some word) :: items switches false ⟨positions, false, none⟩ rest := by
  conv_lhs => unfold items
  rw [hoption]
  dsimp only
  rw [if_pos hvalue]
  conv_lhs => unfold items
  rw [h]
  rfl

end

end Arguments

namespace Command

open Arguments

/-- No command takes the word for an option. -/
def IsPlain (word : Text) : Prop :=
  ∀ name form, forms.lookup name = some form →
    shape (helpSwitches ++ form.switches) word = .plain

/-! ### Reading a task -/

/-- Two meanings agree: the same is to be done with either program file, or nothing with both. -/
inductive Agree (program program' : Text) : Meaning Command → Meaning Command → Prop where
  /-- The task is the same. -/
  | task (t : Task) : Agree program program' (.accepted (t.on program)) (.accepted (t.on program'))
  | help : Agree program program' .help .help
  | version : Agree program program' .version .version
  | misuse : Agree program program' .misuse .misuse

section

variable {program program' : Text}

/-- An option other than that for help is set, or its value cannot be read. -/
lemma gather_set (make : List (Option Text) → Options → Meaning Command) {key : Key}
    (hkey : key ≠ .help) (positions : List (Option Text)) (o : Options) (surplus : Bool)
    (value : Option Text) (items : List (Item Key)) :
    gather make positions o surplus (.set key value :: items) =
      (o.set key value).elim .misuse fun after => gather make positions after surplus items := by
  cases key with
  | help => exact absurd rfl hkey
  | _ =>
    conv_lhs => unfold gather
    cases o.set _ value <;> rfl

/-- Items are gathered in the same way whatever the first position is. -/
lemma agree_gather {make : List (Option Text) → Options → Meaning Command}
    (hmake : ∀ more o,
      Agree program program' (make (some program :: more) o) (make (some program' :: more) o))
    (items : List (Item Key)) (more : List (Option Text)) (o : Options) (surplus : Bool) :
    Agree program program' (gather make (some program :: more) o surplus items)
      (gather make (some program' :: more) o surplus items) := by
  induction items generalizing more o surplus with
  | nil =>
    unfold gather
    cases surplus with
    | true => exact .misuse
    | false => exact hmake more o
  | cons item items ih =>
    cases item with
    | failure => exact .misuse
    | command => exact .misuse
    | surplus => exact ih more o true
    | position word => exact ih (more ++ [word]) o surplus
    | set key value =>
      by_cases hkey : key = .help
      · subst hkey
        exact .help
      · rw [gather_set make hkey, gather_set make hkey]
        cases o.set key value with
        | none => exact .misuse
        | some after => exact ih more after surplus

/-- The names of the tasks. -/
def taskNames : List Text :=
  ["run", "batch", "disasm"]

/-- A task has a form with a position for the program file. -/
lemma exists_form_of_mem_taskNames {name : Text} (h : name ∈ taskNames) :
    ∃ form positions, forms.lookup name = some form ∧ form.positions = positions + 1 ∧
      ∀ program program' more o, Agree program program' (form.make (some program :: more) o)
        (form.make (some program' :: more) o) := by
  simp only [taskNames, List.mem_cons, List.not_mem_nil, or_false] at h
  rcases h with rfl | rfl | rfl
  · refine ⟨_, 0, rfl, rfl, fun program program' more o => ?_⟩
    obtain ⟨output, listing, input, budget, trace, dump, all⟩ := o
    rcases more with _ | ⟨word, more⟩
    · cases budget with
      | none => exact .task (.lacking .budget)
      | some budget =>
        cases input with
        | none => exact .task (.lacking .inputs)
        | some inputs => exact .task (.run inputs budget trace dump)
    · exact .misuse
  · refine ⟨_, 1, rfl, rfl, fun program program' more o => ?_⟩
    rcases more with _ | ⟨tests | tests, _ | _⟩
    · exact .misuse
    · exact .task (.lacking .tests)
    · exact .misuse
    · exact .task (.batch tests)
    · exact .misuse
  · refine ⟨_, 0, rfl, rfl, fun program program' more o => ?_⟩
    cases more with
    | nil => exact .task (.disasm o.all)
    | cons => exact .misuse

/-- A task is read in the same way whichever word names the program file. -/
theorem agree_read {name : Text} (hname : name ∈ taskNames) (h : IsPlain program)
    (h' : IsPlain program') (words : List Text) :
    Agree program program' (read name (program :: words)) (read name (program' :: words)) := by
  obtain ⟨form, positions, hform, hpositions, hmake⟩ := exists_form_of_mem_taskNames hname
  unfold read
  rw [hform]
  dsimp only
  have hplain := h name form hform
  have hplain' := h' name form hform
  rw [hasAmbiguity_cons_of_plain hplain, hasAmbiguity_cons_of_plain hplain', hpositions,
    items_position hplain, items_position hplain']
  split
  · exact .misuse
  · exact agree_gather (hmake program program') _ [] {} false

end

/-- The words that assemble a file into another one. -/
lemma read_asm {source output : Text} (h : IsPlain source) (h' : IsPlain output) :
    read "asm" [source, "-o", output] = .accepted (.asm source output false) := by
  obtain ⟨form, hform, hpositions, hoption, hmake⟩ : ∃ form : Form,
      forms.lookup ("asm" : Text) = some form ∧ form.positions = 1 ∧
      shape (helpSwitches ++ form.switches) "-o" = .bare ⟨"-o", .output, true⟩ ∧
      form.make [some source] { output } = .accepted (.asm source output false) :=
    ⟨_, rfl, rfl, rfl, rfl⟩
  unfold read
  rw [hform]
  dsimp only
  have hplain := h _ form hform
  have hplain' := h' _ form hform
  rw [hasAmbiguity_cons_of_plain hplain, hasAmbiguity_cons_of_bare (by decide) hoption,
    hasAmbiguity_cons_of_plain hplain', hpositions, items_position hplain,
    items_value hoption rfl hplain']
  exact hmake

end Command

namespace Invocation

open Arguments

/-- A word names a file: no command takes it for an option, and it does not fit several options that
concern all commands. -/
structure NamesFile (word : Text) : Prop where
  isPlain : Command.IsPlain word
  clear : shape switches word ≠ .ambiguous

/-- A word that does not open with a dash names a file. -/
lemma namesFile_of_head?_ne {word : Text} (h : word.head? ≠ some '-') : NamesFile word where
  isPlain _ _ _ := shape_of_head?_ne _ h
  clear := by
    rw [shape_of_head?_ne _ h]
    exact nofun

/-- A word that names a file makes no command line ambiguous. -/
lemma NamesFile.hasAmbiguity_cons {word : Text} (h : NamesFile word) (rest : List Text) :
    hasAmbiguity switches (word :: rest) = hasAmbiguity switches rest :=
  Arguments.hasAmbiguity_cons (ne_separator_of_plain (h.isPlain "asm" _ rfl)) h.clear rest

/-- A command line without options in front of the command asks for the command alone. -/
lemma read_command {name : Text} (h : name.head? ≠ some '-') (words : List Text) :
    read (name :: words) = if hasAmbiguity switches words then .misuse
      else match Command.read name words with
        | .help => .help
        | .version => .version
        | .misuse => .misuse
        | .accepted command => .accepted ⟨{}, [], command⟩ := by
  have hplain := shape_of_head?_ne switches h
  unfold read
  rw [hasAmbiguity_cons_of_plain hplain, items_command hplain]
  rfl

/-- A command line that assembles a file into another one. -/
lemma read_asm {source output : Text} (h : NamesFile source) (h' : NamesFile output) :
    read ["asm", source, "-o", output] = .accepted ⟨{}, [], .asm source output false⟩ := by
  have hoption : shape switches "-o" ≠ .ambiguous := nofun
  have hclear : hasAmbiguity switches [source, "-o", output] = false := by
    rw [h.hasAmbiguity_cons, Arguments.hasAmbiguity_cons (by decide) hoption, h'.hasAmbiguity_cons]
    rfl
  rw [read_command (by decide), hclear, if_neg (by decide), Command.read_asm h.isPlain h'.isPlain]

/-- A command line for a task is read in the same way whichever word names the program file, or asks
for the task without options in front of it. -/
lemma read_task {name : Text} (hname : name ∈ Command.taskNames) {program program' : Text}
    (h : NamesFile program) (h' : NamesFile program') (words : List Text) :
    read (name :: program :: words) = read (name :: program' :: words) ∨ ∃ t : Command.Task,
      read (name :: program :: words) = .accepted ⟨{}, [], t.on program⟩ ∧
        read (name :: program' :: words) = .accepted ⟨{}, [], t.on program'⟩ := by
  have hplain : name.head? ≠ some '-' := by
    revert name
    decide
  have hagree := Command.agree_read hname h.isPlain h'.isPlain words
  rw [read_command hplain, read_command hplain, h.hasAmbiguity_cons, h'.hasAmbiguity_cons]
  split
  · exact Or.inl rfl
  · generalize Command.read name (program :: words) = meaning at hagree
    generalize Command.read name (program' :: words) = meaning' at hagree
    cases hagree with
    | task t => exact Or.inr ⟨t, rfl, rfl⟩
    | help | version | misuse => exact Or.inl rfl

end Invocation

namespace Console

open Command

/-! ### Carrying out command lines -/

/-- The exit code of a response. -/
def Response.exit : Response → Nat
  | help | version => 0
  | misuse => 2
  | reported r => r.exit

/-- Two responses show the same. -/
inductive ShowAlike : Response → Response → Prop where
  | same (x : Response) : ShowAlike x x
  | reported (r r' : Report) (alike : Alike r r') : ShowAlike (.reported r) (.reported r')

section

variable {tree : FileTree} {source output : Text}

/-- A command without a log makes its report on the files as they are, and the file of the report is
written. -/
lemma run_of_logFile_nil {words : List Text} {i : Invocation}
    (h : Invocation.read words = .accepted i) (hlog : i.logFile = []) (time : Text) :
    run time tree words = ((save tree (i.command.report tree.read)).1,
      .reported (save tree (i.command.report tree.read)).2) := by
  have hkeep (lines : List Log.Line) : keepLog time tree i lines = .ok tree := by
    unfold keepLog keepsLog
    rw [hlog]
    rfl
  have hcarried : carryOut time tree i = .ok (save tree (i.command.report tree.read)) := by
    unfold carryOut
    rw [hkeep]
    dsimp only
    rw [hkeep]
  unfold run
  rw [h]
  dsimp only
  rw [hcarried]

/-- A report without a file changes none. -/
lemma save_eq_of_save_none {r : Report} (h : r.save = none) : save tree r = (tree, r) := by
  unfold save
  rw [h]

/-- A task without a log makes its report, and no file changes. -/
lemma run_of_read_task {words : List Text} {program : Text} {t : Task}
    (h : Invocation.read words = .accepted ⟨{}, [], t.on program⟩) (time : Text) :
    run time tree words = (tree, .reported ((t.on program).report tree.read)) := by
  rw [run_of_logFile_nil h rfl, save_eq_of_save_none (save_report tree.read program t)]

/-- If two words name files that show the same for every task, command lines show the same
with either of them. -/
lemma showAlike_run {program program' : Text}
    (halike : ∀ t : Task,
      Alike ((t.on program).report tree.read) ((t.on program').report tree.read))
    {name : Text} (hname : name ∈ taskNames) (h : Invocation.NamesFile program)
    (h' : Invocation.NamesFile program') (time : Text) (words : List Text) :
    ShowAlike (run time tree (name :: program :: words)).2
      (run time tree (name :: program' :: words)).2 := by
  rcases Invocation.read_task hname h h' words with hread | ⟨t, hread, hread'⟩
  · have hsame : run time tree (name :: program :: words) =
        run time tree (name :: program' :: words) := by
      unfold run
      rw [hread]
    rw [hsame]
    exact .same _
  · rw [run_of_read_task hread, run_of_read_task hread']
    exact .reported _ _ (halike t)

/-- A report that was saved with success is the report that was made, and its file was written. -/
lemma write_of_save {r : Report} (h : (save tree r).2.exit = exitOk) :
    r.exit = exitOk ∧ ∀ path content, r.save = some (path, content) →
      tree.write path (Text.Utf8.encode content) = .ok (save tree r).1 := by
  unfold save at h ⊢
  split at h
  · next hnone =>
    refine ⟨h, fun path content hsome => ?_⟩
    rw [hnone] at hsome
    cases hsome
  · next path content hsome =>
    split at h
    · next after hwrite =>
      refine ⟨h, fun path' content' hsome' => ?_⟩
      obtain ⟨rfl, rfl⟩ := Prod.mk.inj (Option.some.inj (hsome.symm.trans hsome'))
      exact hwrite
    · cases h

/-- A source that assembles can be read. -/
lemma exists_read_of_reportAsm {read : Reader}
    (h : (reportAsm read source output false).exit = exitOk) :
    ∃ octets, read source = .ok octets := by
  unfold reportAsm assembleFile readText at h
  cases hread : read source with
  | ok octets => exact ⟨octets, rfl⟩
  | error e =>
    rw [hread] at h
    cases h

/-- A source and machine code have different names. -/
lemma getLast?_steps_ne (hsource : Path.type source ∈ Path.sourceTypes)
    (houtput : Path.type output ∈ Path.machineCodeTypes) :
    (Path.steps source).getLast? ≠ (Path.steps output).getLast? := by
  obtain ⟨hother, -, htyped⟩ := ne_of_mem_machineCodeTypes houtput
  have htyped' : Path.type source ≠ [] := by
    intro heq
    rw [heq] at hsource
    revert hsource
    decide
  obtain ⟨front, hfront⟩ := Path.exists_steps_eq (Path.lastComponent_of_type htyped).1
  obtain ⟨front', hfront'⟩ := Path.exists_steps_eq (Path.lastComponent_of_type htyped').1
  rw [hfront, hfront', List.getLast?_concat, List.getLast?_concat]
  intro heq
  rw [Path.type_congr (Option.some.inj heq)] at hsource
  exact hother hsource

/-- After a source was assembled to a file of machine code, command lines show the same with the one
and with the other. -/
theorem showAlike_of_asm (hsource : Path.type source ∈ Path.sourceTypes)
    (houtput : Path.type output ∈ Path.machineCodeTypes) (h : Invocation.NamesFile source)
    (h' : Invocation.NamesFile output) (hinside : FileTree.leadsOutside output = false)
    (time : Text) (hexit : (run time tree ["asm", source, "-o", output]).2.exit = exitOk)
    {name : Text} (hname : name ∈ taskNames) (time' : Text) (words : List Text) :
    ShowAlike
      (run time' (run time tree ["asm", source, "-o", output]).1 (name :: output :: words)).2
      (run time' (run time tree ["asm", source, "-o", output]).1 (name :: source :: words)).2 := by
  have hrun : run time tree ["asm", source, "-o", output] =
      ((save tree (reportAsm tree.read source output false)).1,
        .reported (save tree (reportAsm tree.read source output false)).2) :=
    run_of_logFile_nil (Invocation.read_asm h h') rfl time
  rw [hrun] at hexit ⊢
  obtain ⟨hmade, hwritten⟩ := write_of_save hexit
  obtain ⟨content, hsave, halike⟩ := alike_of_reportAsm hsource houtput hmade
  have hwrite := hwritten output content hsave
  obtain ⟨octets, hread⟩ := exists_read_of_reportAsm hmade
  -- the source is read as before, since the machine code went to a file of another name
  have hnames := getLast?_steps_ne hsource houtput
  have hkept := FileTree.read_of_write_of_ne hwrite hread hnames
  refine showAlike_run (fun t => ?_) hname h' h time' words
  exact halike _ (FileTree.read_of_write hwrite hinside) (hkept.trans hread.symm) t

end

/-- The machine code of a source is the same program as the source. A machine takes the image as it
is, and takes its text of a hundred lines for the same words. After the assembly of a source file to
a file of machine code, running, trying and disassembling show the same with the one file and with
the other: with any way to keep files that gives back what was written, and with whole command lines
on the files below the working directory. -/
theorem machineCode_interchangeable :
    (∀ source image, assemble source = .ok image →
      Assembly.IsProgramText image (Assembly.ofSource source).machineCode) ∧
    (∀ (before : Reader) (source output : Text), Path.type source ∈ Path.sourceTypes →
      Path.type output ∈ Path.machineCodeTypes →
      (reportAsm before source output false).exit = exitOk →
      ∃ content, (reportAsm before source output false).save = some (output, content) ∧
        ∀ after : Reader, after output = .ok (Text.Utf8.encode content) →
          after source = before source → ∀ task : Task,
            Alike ((task.on output).report after) ((task.on source).report after)) ∧
    ∀ (time : Text) (tree : FileTree) (source output : Text),
      Path.type source ∈ Path.sourceTypes → Path.type output ∈ Path.machineCodeTypes →
      Invocation.NamesFile source → Invocation.NamesFile output →
      FileTree.leadsOutside output = false →
      (run time tree ["asm", source, "-o", output]).2.exit = exitOk →
      ∀ name ∈ taskNames, ∀ (time' : Text) (words : List Text),
        ShowAlike
          (run time' (run time tree ["asm", source, "-o", output]).1 (name :: output :: words)).2
          (run time' (run time tree ["asm", source, "-o", output]).1 (name :: source :: words)).2 :=
  ⟨fun _ _ => Assembly.isProgramText_of_assemble,
    fun _ _ _ hsource houtput h => alike_of_reportAsm hsource houtput h,
    fun time _ _ _ hsource houtput h h' hinside hexit _ hname time' words =>
      showAlike_of_asm hsource houtput h h' hinside time hexit hname time' words⟩

/-- A directory with a source that shows its first input. -/
def echoTree : FileTree :=
  { files := [(["echo.asm"], Text.Utf8.encode "IN\nOUT\nHLT\n")] }

/-- The source and its machine code show the same on the input seven. -/
theorem machineCode_interchangeable_echo :
    (run [] echoTree ["asm", "echo.asm", "-o", "echo.mc"]).2.exit = exitOk ∧
    ShowAlike
      (run [] (run [] echoTree ["asm", "echo.asm", "-o", "echo.mc"]).1
        ["run", "echo.mc", "--input", "7"]).2
      (run [] (run [] echoTree ["asm", "echo.asm", "-o", "echo.mc"]).1
        ["run", "echo.asm", "--input", "7"]).2 := by
  have hexit : (run [] echoTree ["asm", "echo.asm", "-o", "echo.mc"]).2.exit = exitOk := by
    decide +kernel
  exact ⟨hexit, machineCode_interchangeable.2.2 [] echoTree "echo.asm" "echo.mc" (by decide)
    (by decide) (Invocation.namesFile_of_head?_ne (by decide))
    (Invocation.namesFile_of_head?_ne (by decide)) (by decide) hexit "run" (by decide) []
    ["--input", "7"]⟩

end Console

end LittleMan
