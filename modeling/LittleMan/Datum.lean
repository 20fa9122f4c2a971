import LittleMan.Text.Numeral
import LittleMan.Text.Quoted
import LittleMan.Word

/-!
# Data offered as words

A program image and a list of input values are data from outside. What is offered in the place of a
word need not be one: it may be an integer out of range or no integer at all. The machine takes an
image or a list of inputs only if every entry is a word, and its refusal shows the first entry that
is not.
-/

namespace LittleMan

/-- A piece of data offered as a word. -/
inductive Datum where
  /-- An integer of any size. -/
  | integer (n : Int)
  /-- A truth value; it is not taken for a number. -/
  | truth (b : Bool)
  /-- Nothing at all. -/
  | absent
  /-- A number with decimal places, as it is written. -/
  | fraction (numeral : Text)
  /-- A text; it is not read as a number. -/
  | text (t : Text)
deriving DecidableEq, Repr

namespace Datum

/-- The word that is offered, if it is one. -/
def word? : Datum → Option Int
  | integer n => if IsWord n then some n else none
  | _ => none

/-- The datum as a message shows it. -/
def shown : Datum → Text
  | integer n => Text.decimal n
  | truth b => if b then "True" else "False"
  | absent => "None"
  | fraction numeral => numeral
  | text t => Text.quoted t

/-- Whether a message can show the datum. -/
def isWritable : Datum → Bool
  | integer n => Text.isWritable n
  | _ => true

end Datum

end LittleMan
