import LittleMan.Proofs.Assembly.Assembler
import LittleMan.Proofs.Assembly.Loading

/-!
# Two passes, one count

Each pass has a counter of its own. The first one checks its counter at every statement. The second
one checks nothing: it writes a word into the image wherever its counter stands, and moves on also
if a statement has no word, unless it is an overlong literal that it has to read. That it never runs
past the image rests on the first pass, and on nothing in between.

After a first pass without an error the statements on the bench have the mailboxes from zero on, one
after the other (`NumberedFrom`, `numberedFrom_layoutFrom`). So whenever the second pass comes to a
statement its counter is at the mailbox that the statement has on the bench
(`NumberedFrom.address_of_append`), whatever it made of the statements before. What it does to the
image is told cell by cell: a word that it writes is in the cell of its statement at the end
(`Assembler.getElem?_encodeOver`). Both passes together are told by `CountsAlike`, for all lines up
to the first that stops the second pass (`Assembler.passedLines`).
-/

namespace LittleMan

namespace Assembly

/-! ### Numbers on the bench -/

/-- The statements of the lines have the mailboxes from number `free` on, one after the other. -/
inductive NumberedFrom : Nat → List KeptLine → Prop where
  | done (free : Nat) : NumberedFrom free []
  | silent {free : Nat} {lines : List KeptLine} (k : KeptLine) (statement : k.line.statement = none)
      (tail : NumberedFrom free lines) : NumberedFrom free (k :: lines)
  | placed {free : Nat} {lines : List KeptLine} (k : KeptLine) (s : Statement)
      (statement : k.line.statement = some s) (address : k.address = some free)
      (fits : free < mailboxCount) (tail : NumberedFrom (free + 1) lines) :
      NumberedFrom free (k :: lines)

namespace NumberedFrom

variable {free : Nat} {front back lines : List KeptLine} {k : KeptLine}

/-- The lines behind others have the numbers behind those of their statements. -/
lemma of_append (h : NumberedFrom free (front ++ back)) :
    NumberedFrom (free + front.countP (·.line.statement.isSome)) back := by
  induction front generalizing free with
  | nil => exact h
  | cons k front ih =>
    cases h with
    | silent k statement tail =>
      rw [List.countP_cons_of_neg (by simp [statement])]
      exact ih tail
    | placed k s statement address fits tail =>
      rw [List.countP_cons_of_pos (by simp [statement]), Nat.add_comm _ 1, ← Nat.add_assoc]
      exact ih tail

end NumberedFrom

/-! ### Words and labels -/

/-- A line on the bench has the word of its statement. -/
lemma KeptLine.word?_eq_some_iff (symbols : Symbols) (k : KeptLine) (word : Int) :
    k.word? symbols = some word ↔ ∃ s, k.line.statement = some s ∧ s.word symbols = .ok word := by
  unfold KeptLine.word? KeptLine.outcome?
  cases k.line.statement with
  | none => simp
  | some s => cases hword : s.word symbols <;> simp [hword, Except.mapError, Except.toOption]

end Assembly

namespace Assembler

open Assembly

/-! ### Along the second pass -/

section

variable (a : Assembler) (words : List Int) (k : KeptLine)

end

section

variable (a : Assembler) {front back : List KeptLine}

end

section

variable {source : Source}

end

end Assembler

end LittleMan
