import LittleMan.Assembly.Listing
import LittleMan.Assembly.Log
import LittleMan.Batch.Report
import LittleMan.Command.Invocation
import LittleMan.Command.Report

/-!
# Commands

The four commands, as functions from the files they read to the report they make. A program file is
a source or machine code, by its suffix; an assembly takes any file for a source.
-/

namespace LittleMan

namespace Command

/-- How a command reads a file. -/
abbrev Reader := Text → Except FileError (List UInt8)

/-- A result, and what the log tells up to it. -/
abbrev Logged (α : Type) := List Log.Line × Except Failure α

/-- The text of a file, every line break a line feed. -/
def readText (read : Reader) (path : Text) : Except Failure Text :=
  match read path with
  | .error e => .error (.file e)
  | .ok octets => match Text.Utf8.decode octets with
    | .error d => .error (.undecodable d)
    | .ok t => .ok (Text.unifyBreaks t)

/-- Assembles the source in a file. -/
def assembleFile (read : Reader) (path : Text) : Logged Assembly :=
  match readText read path with
  | .error f => ([], .error f)
  | .ok t =>
    let a := Assembly.ofSource (.text t)
    match a.result with
    | .error e => (a.logLines, .error (.assembly e))
    | .ok _ => (a.logLines, .ok a)

/-- The words of the machine code in a file. -/
def parseFile (read : Reader) (path : Text) : Except Failure (List Int) :=
  match readText read path with
  | .error f => .error f
  | .ok t => match MachineCode.parse t with
    | .error cause => .error (.machine { cause })
    | .ok words => .ok words

/-- What the log tells before a program file is opened. -/
def openingLines (path : Text) : List Log.Line :=
  if Path.type path ∈ Path.sourceTypes then [⟨.info, .command, "Assembling " ++ path⟩]
  else if Path.type path ∈ Path.machineCodeTypes then
    [⟨.info, .command, "Loading machine code " ++ path⟩]
  else []

/-- The words of a program file. -/
def loadProgram (read : Reader) (path : Text) : Logged (List Int) :=
  if Path.type path ∈ Path.sourceTypes then
    match assembleFile read path with
    | (log, .error f) => (openingLines path ++ log, .error f)
    | (log, .ok a) => (openingLines path ++ log, .ok a.image)
  else if Path.type path ∈ Path.machineCodeTypes then (openingLines path, parseFile read path)
  else ([], .error (.unknownType path (Path.type path)))

/-- The inputs on a command line: numerals set apart by commas. -/
def parseInputs (t : Text) : Except Failure (List Datum) :=
  (((t.splitOn ',').map Text.strip).filter (!·.isEmpty)).mapM fun token =>
    match Text.numeral? token with
    | some (.ok value) => .ok (.integer value)
    | some (.error o) => .error (.overflow o)
    | none => .error (.badInput token)

/-- Assembles a source and shows machine code or a listing, or writes one of them to a file. -/
def reportAsm (read : Reader) (source output : Text) (listing : Bool) : Report :=
  match assembleFile read source with
  | (log, .error f) => .ofFailure log f
  | (log, .ok a) =>
    if listing then .ofRows log [a.listing]
    else if output.isEmpty then ⟨exitOk, a.machineCode, [], log, none⟩
    else
      let content := if Path.type output = Path.listingType then a.listing ++ ['\n']
        else a.machineCode
      ⟨exitOk, "Assembled " ++ Text.digits a.size ++ " mailboxes -> " ++ output ++ ['\n'], [], log,
        some (output, content)⟩

/-- The rows of the trace on the console, if it is asked for and not empty. -/
def traceRows (m : Machine) (trace : Bool) : List Text :=
  if trace && !m.traceText.isEmpty then [m.traceText] else []

/-- The report of a run that was started: what is printed does not depend on how the run ended, but
for the memory, which is shown only if there was no error. -/
def reportEnded (log : List Log.Line) (m : Machine) (budget : Int) (trace dump : Bool)
    (ended : Except Fault Machine.Run) : Report :=
  let log := log ++ m.logLines
  let shown := traceRows m trace
  let printed := m.outputs.map (Text.zeroPadded 3)
  let grid := if dump then [m.memory.dump] else []
  match ended with
  | .error f =>
    ⟨exitError, Text.closeRows printed, Text.closeRows (shown ++ [(Failure.machine f).message]),
      log, none⟩
  | .ok ⟨.timeout, _⟩ =>
    ⟨exitTimeout, Text.closeRows (printed ++ grid),
      Text.closeRows
        (shown ++ ["Cycle budget exceeded: no HLT within " ++ Text.decimal budget ++ " cycles"]),
      log, none⟩
  | .ok ⟨.halt, _⟩ =>
    ⟨exitOk, Text.closeRows (printed ++ grid), Text.closeRows shown,
      log ++ [⟨.info, .command,
        "Halted after " ++ Text.decimal m.registers.cycles ++ " cycles"⟩],
      none⟩

/-- Runs a program on the inputs of the command line and prints what it writes. -/
def reportRun (read : Reader) (program inputs : Text) (budget : Int) (trace dump : Bool) : Report :=
  if budget < 0 then .ofFailure [] .negativeBudget
  else match loadProgram read program with
    | (log, .error f) => .ofFailure log f
    | (log, .ok words) =>
      match Machine.load {} (words.map .integer) with
      | .error f => .ofFailure log (.machine f)
      | .ok loaded =>
        match parseInputs inputs with
        | .error f => .ofFailure (log ++ loaded.logLines) f
        | .ok values =>
          match loaded.inject values with
          | .error f => .ofFailure (log ++ loaded.logLines) (.machine f)
          | .ok ready =>
            let (after, ended) := Machine.runFor { ready with tracing := trace } budget.toNat
            reportEnded log after budget trace dump ended

/-- Tries a program on the records of a test file and prints the report of the batch. -/
def reportBatch (read : Reader) (program tests : Text) : Report :=
  match loadProgram read program with
  | (log, .error f) => .ofFailure log f
  | (log, .ok words) =>
    match readText read tests with
    | .error f => .ofFailure log f
    | .ok t =>
      match ({ image := some (words.map .integer) } : Batch.Ledger).runFile none t with
      | (after, .error e) => .ofFailure (log ++ after.log.toList) (.batch e)
      | (after, .ok _) =>
        ⟨if after.allPassed then exitOk else exitError, Text.closeRows [after.report], [],
          log ++ after.log.toList, none⟩

/-- The number of rows of a disassembly without the zeros at the end; one row stays in any case. -/
def trimmedSize (cells : List Int) : Nat :=
  max 1 (cells.reverse.dropWhile (· == 0)).length

/-- The row of a mailbox in a disassembly. -/
def disassemblyRow (address : Nat) (word : Int) : Text :=
  Text.zeroPadded 2 address ++ ": " ++ Text.zeroPadded 3 word ++ "  " ++ disassemble word

/-- The rows of a disassembly. -/
def disassemblyRows (cells : List Int) (all : Bool) : List Text :=
  let rows := cells.mapIdx disassemblyRow
  if all then rows else rows.take (trimmedSize cells)

/-- Disassembles the memory of a program. -/
def reportDisasm (read : Reader) (program : Text) (all : Bool) : Report :=
  match loadProgram read program with
  | (log, .error f) => .ofFailure log f
  | (log, .ok words) =>
    match Memory.load {} (words.map .integer) with
    | .error cause => .ofFailure log (.machine { cause })
    | .ok memory => .ofRows log (disassemblyRows memory.snapshot all)

/-- Starts a command that lacks something, and fails when it comes to that: the budget is asked for
first, the inputs when the machine is loaded, and the test file when the program is read. -/
def reportLacking (read : Reader) (lack : Lack) (program : Text) : Report :=
  match lack, loadProgram read program with
  | .budget, _ => .ofFailure [] (.lacking lack)
  | _, (log, .error f) => .ofFailure log f
  | .tests, (log, .ok _) => .ofFailure log (.lacking lack)
  | .inputs, (log, .ok words) => match Machine.load {} (words.map .integer) with
    | .error f => .ofFailure log (.machine f)
    | .ok loaded => .ofFailure (log ++ loaded.logLines) (.lacking lack)

/-- The report of a command on the files that `read` finds. -/
def report (read : Reader) : Command → Report
  | asm source output listing => reportAsm read source output listing
  | run program inputs budget trace dump => reportRun read program inputs budget trace dump
  | batch program tests => reportBatch read program tests
  | disasm program all => reportDisasm read program all
  | lacking lack program => reportLacking read lack program

/-- What the log tells of a command before the first file is read. -/
def opening : Command → List Log.Line
  | asm _ _ _ => []
  | run program _ budget _ _ => if budget < 0 then [] else openingLines program
  | batch program _ | disasm program _ => openingLines program
  | lacking lack program => if lack = .budget then [] else openingLines program

/-- The files that a command may read, in the order in which it reads them. -/
def paths : Command → List Text
  | asm source _ _ => [source]
  | run program _ _ _ _ => [program]
  | batch program tests => [program, tests]
  | disasm program _ => [program]
  | lacking _ program => [program]

end Command

end LittleMan
