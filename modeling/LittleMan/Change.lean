import LittleMan.Word

/-!
# Changes between snapshots

Two snapshots of the memory are compared mailbox by mailbox. The changes are the addresses that
differ, ascending, each with its old and its new word; applied to the first snapshot they give the
second.
-/

namespace LittleMan

/-- A mailbox whose word changed. -/
structure Change where
  address : Nat
  old : Int
  new : Int
deriving DecidableEq, Repr

namespace Change

/-- The changes from `before` to `after`, both read from mailbox `address` on. -/
def between (address : Nat) : List Int → List Int → List Change
  | old :: before, new :: after =>
    if old = new then between (address + 1) before after
    else ⟨address, old, new⟩ :: between (address + 1) before after
  | _, _ => []

/-- The changes from one snapshot to another. -/
def diff (before after : List Int) : List Change :=
  between 0 before after

/-- A snapshot after the changes. -/
def apply (snapshot : List Int) (changes : List Change) : List Int :=
  changes.foldl (fun s c => s.set c.address c.new) snapshot

end Change

end LittleMan
