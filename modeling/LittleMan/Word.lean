/-!
# Words and addresses

The machine has a hundred mailboxes, numbered 0 to 99, and each holds a word, a number from 0 to
999. Numbers are kept as integers throughout: whatever is offered as a word or as an address is
checked where it enters, and the predicates of this module say what the check asks.
-/

namespace LittleMan

/-- The number of mailboxes. -/
def mailboxCount : Nat := 100

/-- A number that a mailbox can hold. -/
def IsWord (n : Int) : Prop :=
  0 ≤ n ∧ n ≤ 999

/-- The number of a mailbox. -/
def IsAddress (n : Int) : Prop :=
  0 ≤ n ∧ n ≤ 99

instance (n : Int) : Decidable (IsWord n) :=
  inferInstanceAs (Decidable (0 ≤ n ∧ n ≤ 999))

instance (n : Int) : Decidable (IsAddress n) :=
  inferInstanceAs (Decidable (0 ≤ n ∧ n ≤ 99))

/-- Words followed by as many zeros as there are mailboxes left. -/
def padded (words : List Int) : List Int :=
  words ++ List.replicate (mailboxCount - words.length) 0

end LittleMan
