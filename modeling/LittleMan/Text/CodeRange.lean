import LittleMan.Text.Basic

/-!
# Stretches of the code

A property of characters is given by the stretches of code points that have it, in ascending order.
The tables follow version 14 of Unicode.
-/

namespace LittleMan

namespace Text

/-- `(first, last)`: the code points from `first` to `last`. -/
abbrev CodeRange := Nat × Nat

/-- Whether a character lies in one of the stretches. -/
def inRanges (ranges : List CodeRange) (c : Char) : Bool :=
  ranges.any fun (first, last) => first ≤ c.toNat && c.toNat ≤ last

end Text

end LittleMan
