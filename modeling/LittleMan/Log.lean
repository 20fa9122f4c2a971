import LittleMan.Text.Basic

/-!
# Log lines

A log tells what the parts of the toolkit did, one line each, with a level and the part it is about.
-/

namespace LittleMan

namespace Log

/-- How much a line of the log matters. -/
inductive Level where
  | debug
  | info
  | warning
deriving DecidableEq, Repr

/-- The name of a level. -/
def Level.name : Level → Text
  | debug => "DEBUG"
  | info => "INFO"
  | warning => "WARNING"

/-- The parts of the toolkit that tell what they do. -/
inductive Part where
  | toolkit
  | assembler
  | machine
  | batch
  | command
deriving DecidableEq, Repr

/-- The name of a part. -/
def Part.name : Part → Text
  | toolkit => "lmc"
  | assembler => "lmc.asm"
  | machine => "lmc.emu"
  | batch => "lmc.batch"
  | command => "lmc.cli"

/-- A line of a log. -/
structure Line where
  level : Level
  part : Part
  message : Text
deriving DecidableEq, Repr

/-- A line as it is written, but for the time. -/
def Line.row (l : Line) : Text :=
  l.level.name.rightpad 7 ' ' ++ " | " ++ l.part.name ++ " | " ++ l.message

end Log

end LittleMan
