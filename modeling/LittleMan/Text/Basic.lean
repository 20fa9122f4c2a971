/-!
# Text

Everything the toolkit reads and writes is text: programs, machine code, test records, traces,
reports. Text is kept as a list of characters, so that a statement about text is a statement about
a list and needs nothing beyond the theory of lists. A string literal stands for its characters
wherever a text is expected.
-/

namespace LittleMan

/-- A text is the list of its characters, first to last. -/
abbrev Text := List Char

instance : Coe String Text := ⟨String.toList⟩

namespace Text

/-- The rows of a block of text, a line feed between neighbours and none after the last. -/
def joinRows (rows : List Text) : Text :=
  List.intercalate ['\n'] rows

/-- The rows of a block of text, each closed by a line feed. -/
def closeRows (rows : List Text) : Text :=
  rows.flatMap (· ++ ['\n'])

/-- The text without the longest run of characters of the class `p` at its end. -/
def dropEndWhile (p : Char → Bool) (t : Text) : Text :=
  (t.reverse.dropWhile p).reverse

/-- What stands before the first `c`, or the whole text if there is none. -/
def before (c : Char) (t : Text) : Text :=
  t.takeWhile (· != c)

/-- What stands after the first `c`, if there is one. -/
def after? (c : Char) (t : Text) : Option Text :=
  match t.dropWhile (· != c) with
  | [] => none
  | _ :: rest => some rest

end Text

end LittleMan
