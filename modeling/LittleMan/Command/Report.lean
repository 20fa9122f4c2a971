import LittleMan.Assembly.Basic
import LittleMan.Batch.Outcome
import LittleMan.Command.FileTree
import LittleMan.Command.Invocation
import LittleMan.Text.Utf8

/-!
# Reports of commands

What a command leaves behind: an exit code, what it prints, what its log tells, and a file to be
written. A command that fails reports one line, and the exit code tells failure; a run that comes to
the end of its budget has an exit code of its own.
-/

namespace LittleMan

/-- What goes wrong with a command that lacks something. -/
def Lack.reason : Lack → Text
  | budget => "TypeError: '<' not supported between instances of 'list' and 'int'"
  | inputs => "AttributeError: 'list' object has no attribute 'split'"
  | tests => "TypeError: expected str, bytes or os.PathLike object, not list"

namespace Command

/-- Why a command fails. -/
inductive Failure where
  | assembly (e : Assembly.Error)
  | machine (f : Fault)
  | batch (e : Batch.Error)
  | file (e : FileError)
  | undecodable (d : Text.Utf8.Defect)
  /-- The suffix of a program file tells no known type. -/
  | unknownType (path type : Text)
  /-- An input on the command line is no number. -/
  | badInput (token : Text)
  /-- An input on the command line has too many digits. -/
  | overflow (o : Text.Overflow)
  /-- The budget on the command line is negative. -/
  | negativeBudget
  /-- The command lacks something. -/
  | lacking (lack : Lack)
deriving DecidableEq, Repr

/-- A failure as the line that reports it. What is neither an error of the assembler nor a fault of
the machine is plainly called an error. That something is lacking no part of the program expects:
the system reports it in rows of its own, of which the heading and the reason are told here. -/
def Failure.message : Failure → Text
  | assembly e => (if e.cause.stops then "Error: " else "Assembly error: ") ++ e.message
  | machine f => (if f.isOwn then f.kind.name else "Error") ++ ": " ++ f.reported.message
  | batch e => "Error: " ++ e.message
  | file e => "Error: " ++ e.message
  | undecodable d => "Error: " ++ d.message
  | unknownType path type =>
    "Error: " ++ path ++ ": unknown program type '" ++ type ++ "' (expected one of " ++
      List.intercalate ", " (Path.sourceTypes ++ Path.machineCodeTypes) ++ ")"
  | badInput token => "Error: --input: not an input value: '" ++ token ++ "'"
  | overflow o => "Error: " ++ o.message
  | negativeBudget => "Error: --max-cycles must be >= 0"
  | lacking lack => Text.joinRows ["Traceback (most recent call last):", lack.reason]

/-- The exit code of a command that did what was asked. -/
def exitOk : Nat := 0

/-- The exit code of a command that failed. -/
def exitError : Nat := 1

/-- The exit code of a run that did not halt within its budget. -/
def exitTimeout : Nat := 3

/-- What a command leaves behind. -/
structure Report where
  exit : Nat
  stdout : Text := []
  stderr : Text := []
  /-- What the log tells of the command. -/
  log : List Log.Line := []
  /-- The path and the text of a file to be written. -/
  save : Option (Text × Text) := none
deriving DecidableEq, Repr

namespace Report

/-- The report of a failure, `log` being told up to it. -/
def ofFailure (log : List Log.Line) (f : Failure) : Report :=
  ⟨exitError, [], f.message ++ ['\n'], log, none⟩

/-- The report of a success that prints rows. -/
def ofRows (log : List Log.Line) (rows : List Text) : Report :=
  ⟨exitOk, Text.closeRows rows, [], log, none⟩

/-- The report in the place of one whose file could not be written. -/
def unsaved (r : Report) (e : FileError) : Report :=
  ofFailure r.log (.file e)

end Report

end Command

end LittleMan
