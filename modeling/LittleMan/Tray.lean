import LittleMan.Fault

/-!
# Trays

The two devices of the machine. Values wait on the input tray in the order in which they were put
there, and are taken from the front. The output tray keeps every value written, oldest first. A list
of inputs is put on the tray as a whole or refused as a whole.
-/

namespace LittleMan

/-- The input tray: the values that wait, the next one first. -/
structure InputTray where
  pending : List Int := []
deriving DecidableEq, Repr

namespace InputTray

/-- The values of a list of inputs; the first one that is no word is refused. -/
def inputWords : List Datum → Except Fault.Cause (List Int)
  | [] => .ok []
  | d :: rest => match d.word? with
    | some w => (w :: ·) <$> inputWords rest
    | none => .error (.badInput d)

/-- Puts a list of inputs behind the values that wait. -/
def inject (tray : InputTray) (inputs : List Datum) : Except Fault.Cause InputTray :=
  (fun words => ⟨tray.pending ++ words⟩) <$> inputWords inputs

/-- Takes the front value. -/
def pop (tray : InputTray) : Except Fault.Cause (Int × InputTray) :=
  match tray.pending with
  | [] => .error .trayEmpty
  | value :: rest => .ok (value, ⟨rest⟩)

end InputTray

/-- The output tray: the values written, oldest first. -/
structure OutputTray where
  values : Array Int := #[]
deriving DecidableEq, Repr

namespace OutputTray

/-- Puts a value on the tray. -/
def push (tray : OutputTray) (value : Int) : OutputTray :=
  ⟨tray.values.push value⟩

/-- The value written last. -/
def last? (tray : OutputTray) : Option Int :=
  tray.values.back?

end OutputTray

end LittleMan
