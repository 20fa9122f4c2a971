import LittleMan.Log
import LittleMan.Machine.Basic

/-!
# The log of a machine

What the log tells of the events in a machine, one line for each.
-/

namespace LittleMan

/-- The line of the log that tells an event. -/
def Event.logLine : Event → Log.Line
  | loadedImage size => ⟨.info, .machine, "Loaded program: " ++ Text.digits size ++ " words"⟩
  | loadedText => ⟨.info, .machine, "Loaded machine code"⟩
  | fetched address word =>
    ⟨.debug, .machine,
      Text.zeroPadded 2 address ++ ": " ++ Text.zeroPadded 3 word ++ " " ++ disassemble word⟩
  | wrote value => ⟨.debug, .machine, "OUT " ++ Text.zeroPadded 3 value⟩
  | stopped f => ⟨.debug, .machine, "Stopped on error: " ++ f.message⟩
  | halted cycles =>
    ⟨.info, .machine, "Program halted after " ++ Text.decimal cycles ++ " cycles"⟩
  | exhausted budget pc =>
    ⟨.info, .machine,
      "Cycle budget of " ++ Text.decimal budget ++ " exhausted at PC=" ++ Text.zeroPadded 2 pc⟩

/-- What the log tells of a machine. -/
def Machine.logLines (m : Machine) : List Log.Line :=
  m.events.toList.map Event.logLine

end LittleMan
