import LittleMan.Command.Basic

/-!
# The console

A command line carried out on a tree of files: the words are read, the command makes its report, the
log goes to the end of the log file, and the file of the report is written. The log is open while
the command reads, so a command that reads its own log finds the first lines there. Where a file
cannot be written the command fails. Without a log file, and without an output file for an assembly,
no file changes.
-/

namespace LittleMan

namespace Console

/-- The version of the toolkit. -/
def versionText : Text :=
  "lmcc 1.0.0"

/-- What a command line leaves behind. -/
inductive Response where
  /-- The help is shown. -/
  | help
  /-- The version is shown. -/
  | version
  /-- The usage is shown, since the command line cannot be read. -/
  | misuse
  /-- A command made its report. -/
  | reported (r : Command.Report)
deriving DecidableEq, Repr

/-- The line that the log tells last, behind all that is printed: that a run has halted. -/
def closingLines (i : Invocation) (r : Command.Report) : List Log.Line :=
  match i.command with
  | .run .. => if r.exit = Command.exitOk then r.log.getLast?.toList else []
  | _ => []

/-- The lines of a log that the console is to tell, as `layout` lays them out. -/
def toldText (layout : Log.Line → Text) (v : Verbosity) (lines : List Log.Line) : Text :=
  (lines.filter fun l => v.tells l.level).flatMap layout

/-- What the console shows beside the output of a command: what it is to tell of the log, and the
rows of the report. -/
def stderr (layout : Log.Line → Text) (i : Invocation) (r : Command.Report) : Text :=
  let closing := closingLines i r
  toldText layout i.verbosity (r.log.take (r.log.length - closing.length)) ++ r.stderr ++
    toldText layout i.verbosity closing

/-- Whether an invocation keeps a log. -/
def keepsLog (i : Invocation) : Bool :=
  !i.logFile.isEmpty

/-- The first line of a log. -/
def logOpening (logFile : Text) : Log.Line :=
  ⟨.debug, .toolkit, "Log file: " ++ Path.normal logFile⟩

/-- Lines as they are written to a log file, each with the time. -/
def logRows (time : Text) (lines : List Log.Line) : Text :=
  Text.closeRows (lines.map fun l => time ++ " | " ++ l.row)

/-- What is written to a log file from its opening on. -/
def logText (time logFile : Text) (lines : List Log.Line) : Text :=
  logRows time (logOpening logFile :: lines)

/-- Writes the file of a report, if there is one. -/
def save (tree : FileTree) (r : Command.Report) : FileTree × Command.Report :=
  match r.save with
  | none => (tree, r)
  | some (path, content) => match tree.write path (Text.Utf8.encode content) with
    | .ok after => (after, r)
    | .error e => (tree, r.unsaved e)

/-- The files after lines were written at the end of the log file, if there is one. -/
def keepLog (time : Text) (tree : FileTree) (i : Invocation) (lines : List Log.Line) :
    Except FileError FileTree :=
  if keepsLog i then tree.append i.logFile (Text.Utf8.encode (logText time i.logFile lines))
  else .ok tree

/-- Carries out an invocation. The log is opened before the command reads, and written before the
command's file is. -/
def carryOut (time : Text) (tree : FileTree) (i : Invocation) :
    Except FileError (FileTree × Command.Report) :=
  match keepLog time tree i i.command.opening with
  | .error e => .error e
  | .ok opened =>
    let report := i.command.report opened.read
    match keepLog time tree i report.log with
    | .error e => .error e
    | .ok logged => .ok (save logged report)

/-- Carries out a command line at a given time: the files afterwards, and what is shown. A log that
cannot be opened fails the command. -/
def run (time : Text) (tree : FileTree) (words : List Text) : FileTree × Response :=
  match Invocation.read words with
  | .help => (tree, .help)
  | .version => (tree, .version)
  | .misuse => (tree, .misuse)
  | .accepted i =>
    match carryOut time tree i with
    | .error e => (tree, .reported (.ofFailure [] (.file e)))
    | .ok (after, report) => (after, .reported report)

end Console

end LittleMan
