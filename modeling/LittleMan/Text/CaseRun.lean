import LittleMan.Text.Basic

/-!
# Runs of a case mapping

Most characters that change with the case of a text do so in runs: every character of a stretch of
the code, or every second one, moves by the same distance. A run says where it starts and ends, in
what step, and what its first character becomes.
-/

namespace LittleMan

namespace Text

/-- `(first, last, step, image)`: the code points `first`, `first + step`, … up to `last` move to
`image`, `image + step`, …. -/
abbrev CaseRun := Nat × Nat × Nat × Nat

namespace CaseRun

/-- Where the run moves the code point `n`, if it holds it. -/
def map? : CaseRun → Nat → Option Nat
  | (first, last, step, image), n =>
    if first ≤ n ∧ n ≤ last ∧ (n - first) % step = 0 then some (image + (n - first)) else none

/-- Where a table of runs moves a character; a character in none of them stays. -/
def mapChar (runs : List CaseRun) (c : Char) : Char :=
  match runs.findSome? (map? · c.toNat) with
  | some n => Char.ofNat n
  | none => c

end CaseRun

end Text

end LittleMan
