import LittleMan.Fault

/-!
# Memory

A hundred mailboxes, each holding a word. Reading and writing check the address, and writing checks
that the value is a word; nothing wraps around. A whole image is loaded or refused as one.

A mailbox can be watched. Every write of a word to it first calls its watchers, in the order in
which they were registered and once per registration, while the mailbox still holds its old word. A
watcher that objects, be it by a veto or by an exception of its own, stops the write and the calls
after it. Loading and clearing call no watcher.
-/

namespace LittleMan

/-- What a watcher raises when it does not let a write pass. -/
inductive Objection where
  /-- A fault of the machine, of no particular kind. -/
  | veto (reason : Text)
  /-- An exception that is no fault of the machine, by the name of its kind. -/
  | exception (kind reason : Text)
deriving DecidableEq, Repr

/-- What a write fails for when there is an objection to it. -/
def Objection.cause : Objection → Fault.Cause
  | veto reason => .declared .general reason
  | exception kind reason => .declared (.foreign kind) reason

/-- Somebody who is called before a watched mailbox changes, known by name. -/
structure Watcher where
  name : Text
  /-- Its objection to a write, if it has one, by the address, the old word and the new one. -/
  objection? : Int → Int → Int → Option Objection := fun _ _ _ => none

/-- A watcher that vetoes every write it is called for. -/
def Watcher.vetoing (name : Text) : Watcher :=
  ⟨name, fun _ _ _ => some (.veto ("vetoed by " ++ name))⟩

/-- A call of a watcher: the write it was told of, and what the mailbox held at that moment. -/
structure Sighting where
  watcher : Text
  address : Int
  old : Int
  new : Int
  content : Int
deriving DecidableEq, Repr

/-- The mailboxes and the registrations of watchers, oldest first. -/
structure Memory where
  cells : List Int := List.replicate mailboxCount 0
  watchers : List (Int × Watcher) := []

namespace Memory

/-- The words of all mailboxes, in address order. -/
def snapshot (m : Memory) : List Int :=
  m.cells

/-- The word in the mailbox `address`. -/
def read (m : Memory) (address : Int) : Except Fault.Cause Int :=
  if IsAddress address then .ok (m.cells.getD address.toNat 0)
  else .error (.noMailbox address)

/-- The watchers of a mailbox, in the order of their calls. -/
def watchersOf (m : Memory) (address : Int) : List Watcher :=
  (m.watchers.filter (·.1 = address)).map (·.2)

/-- Calls the watchers one after the other up to the first that objects: the calls made, and what
the objection makes the write fail for. -/
def callWatchers (address old new content : Int) :
    List Watcher → List Sighting × Option Fault.Cause
  | [] => ([], none)
  | w :: rest =>
    let call : Sighting := ⟨w.name, address, old, new, content⟩
    match w.objection? address old new with
    | some objection => ([call], some objection.cause)
    | none =>
      let (calls, outcome) := callWatchers address old new content rest
      (call :: calls, outcome)

/-- Writes a value into the mailbox `address`: the calls of watchers, and the memory afterwards
unless the write is refused. -/
def write (m : Memory) (address value : Int) : List Sighting × Except Fault.Cause Memory :=
  if IsAddress address then
    if IsWord value then
      let old := m.cells.getD address.toNat 0
      match callWatchers address old value old (m.watchersOf address) with
      | (calls, some cause) => (calls, .error cause)
      | (calls, none) => (calls, .ok { m with cells := m.cells.set address.toNat value })
    else ([], .error (.notStorable value))
  else ([], .error (.noMailbox address))

/-- The words of an image whose first entry is for mailbox `index`; the first entry that is no word
is refused. -/
def imageWords (index : Nat) : List Datum → Except Fault.Cause (List Int)
  | [] => .ok []
  | d :: rest => match d.word? with
    | some w => (w :: ·) <$> imageWords (index + 1) rest
    | none => .error (.badImageEntry index d)

/-- Loads an image from mailbox 0 on and puts zero into the mailboxes behind it. -/
def load (m : Memory) (image : List Datum) : Except Fault.Cause Memory :=
  if image.length > mailboxCount then .error (.imageTooLong image.length)
  else (fun words => { m with cells := padded words }) <$> imageWords 0 image

/-- Puts zero into every mailbox. -/
def clear (m : Memory) : Memory :=
  { m with cells := List.replicate mailboxCount 0 }

/-- Registers a watcher of the mailbox `address`. -/
def watch (m : Memory) (address : Int) (w : Watcher) : Except Fault.Cause Memory :=
  if IsAddress address then .ok { m with watchers := m.watchers ++ [(address, w)] }
  else .error (.noMailbox address)

/-- Ends every registration of the named watcher for a mailbox, or of all watchers if no name is
given. -/
def unwatch (m : Memory) (address : Int) (name : Option Text) : Memory :=
  { m with watchers := m.watchers.filter fun (a, w) => a ≠ address ∨ name.any (· ≠ w.name) }

/-- The heading of the grid: the numbers of its ten columns. -/
def gridHeading : Text :=
  "    " ++ List.intercalate [' '] ((List.range 10).map fun c => ' ' :: Text.digits c ++ [' '])

/-- A row of the grid: the address of its first mailbox and the words of ten mailboxes. -/
def gridRow (m : Memory) (row : Nat) : Text :=
  Text.zeroPadded 2 (10 * row) ++ "  " ++
    List.intercalate [' '] ((List.range 10).map fun c =>
      Text.zeroPadded 3 (m.cells.getD (10 * row + c) 0))

/-- The memory as a grid of ten rows with ten mailboxes each. -/
def dump (m : Memory) : Text :=
  Text.joinRows (gridHeading :: (List.range 10).map m.gridRow)

end Memory

end LittleMan
