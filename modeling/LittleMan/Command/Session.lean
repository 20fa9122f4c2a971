import LittleMan.Command.Console

/-!
# Sessions

Several command lines can be carried out in one session, one after the other. Between them the logs
stay as they are: a log file that was opened stays open, and every line goes to the end of all logs
that are open. A command sets the logging up anew before it does anything else. Then the logs that
are open are closed, and the one that is asked for is opened, if there is one. A line that shows the
help or the version, or that cannot be read, does not get that far and leaves the logs open.

With this, a command line does to the files what it does on a console of its own.
-/

namespace LittleMan

/-- The files, and the log files that are open. -/
structure Session where
  tree : FileTree
  /-- The paths of the log files that are open. -/
  logs : List Text := []
deriving DecidableEq, Repr

namespace Session

open Console

/-- Sets the logging up: what is open is closed, and the log that is asked for is opened. -/
def setUp (s : Session) (i : Invocation) : Session :=
  { s with logs := if keepsLog i then [i.logFile] else [] }

/-- What the log tells when the logging is set up. -/
def setUpLines (i : Invocation) : List Log.Line :=
  if keepsLog i then [logOpening i.logFile] else []

/-- The files after lines were written at the end of logs. -/
def tell (time : Text) (lines : List Log.Line) (tree : FileTree) :
    List Text → Except FileError FileTree
  | [] => .ok tree
  | log :: rest =>
    match tree.append log (Text.Utf8.encode (logRows time lines)) with
    | .error e => .error e
    | .ok after => tell time lines after rest

/-- Carries out an invocation for which the logging is set up. The logs are open before the command
reads, and they are written before the command's file is. -/
def carryOut (time : Text) (s : Session) (i : Invocation) :
    Except FileError (FileTree × Command.Report) :=
  match tell time (setUpLines i ++ i.command.opening) s.tree s.logs with
  | .error e => .error e
  | .ok opened =>
    let report := i.command.report opened.read
    match tell time (setUpLines i ++ report.log) s.tree s.logs with
    | .error e => .error e
    | .ok logged => .ok (save logged report)

/-- Carries out a command line at a given time: the session afterwards, and what is shown. A log
that cannot be opened fails the command. -/
def run (time : Text) (s : Session) (words : List Text) : Session × Response :=
  match Invocation.read words with
  | .help => (s, .help)
  | .version => (s, .version)
  | .misuse => (s, .misuse)
  | .accepted i =>
    let ready := s.setUp i
    match ready.carryOut time i with
    | .error e => ({ ready with logs := [] }, .reported (.ofFailure [] (.file e)))
    | .ok (after, report) => ({ ready with tree := after }, .reported report)

/-- Carries out command lines one after the other, each at its time. -/
def runAll (s : Session) : List (Text × List Text) → Session
  | [] => s
  | (time, words) :: rest => (s.run time words).1.runAll rest

end Session

end LittleMan
