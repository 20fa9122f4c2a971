import LittleMan.Command.Console
import LittleMan.Command.Help
import Std.Time.Zoned

/-!
# The program

The command line on the files of the system. All that is decided is decided by the command's report;
here the files are read, the report is shown, and its file and the log are written.
-/

namespace LittleMan

namespace Terminal

/-- Whether the system means an error number; it may give the number or its negative. -/
def means (given number : UInt32) : Bool :=
  given = number || 0 - given = number

/-- The error of the system about a path, as a file error. -/
def fileError (path : Text) : IO.Error → FileError
  | .noFileOrDirectory _ _ _ => .missing path
  | .permissionDenied _ _ _ => .refused 13 "Permission denied" path
  | .inappropriateType _ given _ =>
    if means given 20 then .notDirectory path else .isDirectory path
  | .invalidArgument _ given _ =>
    if means given 36 then .tooLong path else .refused 22 "Invalid argument" path
  | e => .refused 5 (toString e).toList path

/-- Reads a file. -/
def readFile (path : Text) : IO (Except FileError (List UInt8)) := do
  if Char.ofNat 0 ∈ path then
    return .error .nulInPath
  try
    let octets ← IO.FS.readBinFile (String.ofList path)
    return .ok octets.toList
  catch e =>
    return .error (fileError path e)

/-- Writes a file, or appends to it. -/
def writeFile (mode : IO.FS.Mode) (path : Text) (octets : List UInt8) :
    IO (Except FileError Unit) := do
  if Char.ofNat 0 ∈ path then
    return .error .nulInPath
  try
    let handle ← IO.FS.Handle.mk (String.ofList path) mode
    handle.write ⟨octets.toArray⟩
    return .ok ()
  catch e =>
    return .error (fileError path e)

/-- The time of day, as log lines show it. -/
def currentTime : IO Text := do
  let now ← Std.Time.PlainDateTime.now
  let two (n : Int) : Text := Text.zeroPadded 2 n
  return Text.zeroPadded 4 now.year.toInt ++ "-" ++ two now.month.val ++ "-" ++ two now.day.val ++
    " " ++ two now.hour.val ++ ":" ++ two now.minute.val ++ ":" ++ two now.second.val

/-- Writes the file of a report. -/
def save (r : Command.Report) : IO Command.Report := do
  match r.save with
  | none => return r
  | some (path, content) =>
    match ← writeFile .write path (Text.Utf8.encode content) with
    | .ok () => return r
    | .error e => return r.unsaved e

/-- Makes the directory of a file, and those above it. -/
def makeParents (path : Text) : IO Unit :=
  let parents := ['.'] :: FileTree.parentSteps path
  IO.FS.createDirAll (String.ofList (Path.root path ++ List.intercalate ['/'] parents))

/-- Writes text at the end of the log file, if there is one. -/
def keepLog (i : Invocation) (text : Text → Text) : IO (Except FileError Unit) := do
  if Console.keepsLog i then
    try
      makeParents i.logFile
      writeFile .append (Path.normal i.logFile) (Text.Utf8.encode (text (← currentTime)))
    catch e =>
      return .error (fileError i.logFile e)
  else return .ok ()

/-- Carries out a command: the log is opened, the files are read, the rest of the log and the file
of the report are written. -/
def carryOut (i : Invocation) : IO Command.Report := do
  let told := i.command.opening
  match ← keepLog i (Console.logText · i.logFile told) with
  | .error e => return .ofFailure [] (.file e)
  | .ok () =>
    let found ← i.command.paths.mapM fun path => do return (path, ← readFile path)
    let report := i.command.report fun path => (found.lookup path).getD (.error (.missing path))
    let rest := report.log.drop told.length
    match ← keepLog i (Console.logRows · rest) with
    | .error e => return report.unsaved e
    | .ok () => save report

/-- Prints a text. -/
def print (t : Text) : IO Unit :=
  IO.print (String.ofList t)

/-- Prints a text beside the output. -/
def printError (t : Text) : IO Unit :=
  IO.eprint (String.ofList t)

/-- A line of the log on the console. -/
def layout (l : Log.Line) : Text :=
  l.level.name.rightpad 8 ' ' ++ l.message ++ ['\n']

/-- Carries out a command line. -/
def run (words : List Text) : IO UInt32 := do
  match Invocation.read words with
  | .help =>
    print (Text.closeRows Console.helpRows)
    return 0
  | .version =>
    print (Text.closeRows [Console.versionText])
    return 0
  | .misuse =>
    printError (Text.closeRows [Console.usageRow])
    return 2
  | .accepted i =>
    let final ← carryOut i
    print final.stdout
    printError (Console.stderr layout i final)
    return final.exit.toUInt32

end Terminal

end LittleMan

/-- Carries out the command line that the program was called with. -/
def main (args : List String) : IO UInt32 :=
  LittleMan.Terminal.run (args.map String.toList)
