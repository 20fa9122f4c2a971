import LittleMan.Command.Arguments
import LittleMan.Log
import LittleMan.Machine.Run

/-!
# Invocations

What a command line asks for: one of four commands with its options, how much to tell on the
console, and a file for the log. Options that concern all commands stand before the command, the
others behind it, among the words that name files. Of an option given twice the last one counts.
Asking for help or for the version ends the reading there.
-/

namespace LittleMan

/-- What a command can lack, since two dashes stand in the place of it. -/
inductive Lack where
  /-- The budget of a run. -/
  | budget
  /-- The inputs of a run. -/
  | inputs
  /-- The test file of a batch. -/
  | tests
deriving DecidableEq, Repr

/-- A command with its options. -/
inductive Command where
  /-- Assemble a source; show machine code or a listing, or write one of them to a file. -/
  | asm (source : Text) (output : Text) (listing : Bool)
  /-- Run a program. -/
  | run (program : Text) (inputs : Text) (budget : Int) (trace dump : Bool)
  /-- Try a program on a test file. -/
  | batch (program tests : Text)
  /-- Disassemble a program. -/
  | disasm (program : Text) (all : Bool)
  /-- Start a command that lacks something. -/
  | lacking (lack : Lack) (program : Text)
deriving DecidableEq, Repr

/-- How much of the log to tell on the console. -/
structure Verbosity where
  verbose : Bool := false
  debug : Bool := false
  quiet : Bool := false
deriving DecidableEq, Repr

/-- Whether the console tells lines of a level: warnings unless it is to be quiet, progress if it is
to be verbose, and everything for debugging. -/
def Verbosity.tells (v : Verbosity) : Log.Level → Bool
  | .debug => v.debug
  | .info => v.debug || v.verbose
  | .warning => v.debug || v.verbose || !v.quiet

/-- A command line that could be read. -/
structure Invocation where
  verbosity : Verbosity
  /-- The file for the log; empty if there is to be none. -/
  logFile : Text
  command : Command
deriving DecidableEq, Repr

/-- What a command line comes to. -/
inductive Meaning (α : Type) where
  | help
  | version
  /-- The command line cannot be read. -/
  | misuse
  | accepted (a : α)
deriving DecidableEq, Repr

namespace Command

open Arguments

/-- The options of the commands. -/
inductive Key where
  | help
  | output
  | listing
  | input
  | budget
  | trace
  | dump
  | all
deriving DecidableEq, Repr

/-- The values of the options of the commands. -/
structure Options where
  output : Text := []
  listing : Bool := false
  input : Option Text := some []
  budget : Option Int := some Machine.defaultBudget
  trace : Bool := false
  dump : Bool := false
  all : Bool := false
deriving DecidableEq, Repr

/-- The options after one more; none if its value cannot be read. -/
def Options.set (o : Options) (key : Key) (value : Option Text) : Option Options :=
  match key, value with
  | .help, _ => some o
  | .output, _ => some { o with output := value.getD [] }
  | .listing, _ => some { o with listing := true }
  | .input, _ => some { o with input := value }
  | .budget, none => some { o with budget := none }
  | .budget, some written => (Text.integer? written).map fun n => { o with budget := some n }
  | .trace, _ => some { o with trace := true }
  | .dump, _ => some { o with dump := true }
  | .all, _ => some { o with all := true }

/-- What the items of a command come to, when `positions` and `options` are those so far. -/
def gather (make : List (Option Text) → Options → Meaning Command) (positions : List (Option Text))
    (options : Options) (surplus : Bool) : List (Item Key) → Meaning Command
  | [] => if surplus then .misuse else make positions options
  | .failure :: _ => .misuse
  | .command _ _ :: _ => .misuse
  | .surplus :: rest => gather make positions options true rest
  | .position word :: rest => gather make (positions ++ [word]) options surplus rest
  | .set .help _ :: _ => .help
  | .set key value :: rest =>
    match options.set key value with
    | none => .misuse
    | some after => gather make positions after surplus rest

/-- The option that every command has. -/
def helpSwitches : List (Switch Key) :=
  [⟨"-h", .help, false⟩, ⟨"--help", .help, false⟩]

/-- The options of a command, the number of its positions, and what it is made from them. -/
structure Form where
  switches : List (Switch Key)
  positions : Nat
  make : List (Option Text) → Options → Meaning Command

/-- The forms of the commands, by name. -/
def forms : List (Text × Form) :=
  [("asm",
      ⟨[⟨"-o", .output, true⟩, ⟨"--output", .output, true⟩, ⟨"--listing", .listing, false⟩], 1,
        fun positions o => match positions with
          | [some source] => .accepted (.asm source o.output o.listing)
          | _ => .misuse⟩),
    ("run",
      ⟨[⟨"--input", .input, true⟩, ⟨"--max-cycles", .budget, true⟩, ⟨"--trace", .trace, false⟩,
          ⟨"--dump", .dump, false⟩], 1,
        fun positions o => match positions, o.budget, o.input with
          | [some program], some budget, some inputs =>
            .accepted (.run program inputs budget o.trace o.dump)
          | [some program], none, _ => .accepted (.lacking .budget program)
          | [some program], some _, none => .accepted (.lacking .inputs program)
          | _, _, _ => .misuse⟩),
    ("batch",
      ⟨[], 2, fun positions _ => match positions with
        | [some program, some tests] => .accepted (.batch program tests)
        | [some program, none] => .accepted (.lacking .tests program)
        | _ => .misuse⟩),
    ("disasm",
      ⟨[⟨"--all", .all, false⟩], 1, fun positions o => match positions with
        | [some program] => .accepted (.disasm program o.all)
        | _ => .misuse⟩)]

/-- Reads the words behind the name of a command. -/
def read (name : Text) (words : List Text) : Meaning Command :=
  match forms.lookup name with
  | none => .misuse
  | some form =>
    let switches := helpSwitches ++ form.switches
    if hasAmbiguity switches words then .misuse
    else gather form.make [] {} false (items switches false ⟨form.positions, false, none⟩ words)

end Command

namespace Invocation

open Arguments

/-- The options that concern all commands. -/
inductive Key where
  | help
  | version
  | verbose
  | debug
  | quiet
  | logFile
deriving DecidableEq, Repr

/-- The words that select them. -/
def switches : List (Switch Key) :=
  [⟨"-h", .help, false⟩, ⟨"--help", .help, false⟩, ⟨"--version", .version, false⟩,
    ⟨"-v", .verbose, false⟩, ⟨"--verbose", .verbose, false⟩, ⟨"--debug", .debug, false⟩,
    ⟨"-q", .quiet, false⟩, ⟨"--quiet", .quiet, false⟩, ⟨"--log-file", .logFile, true⟩]

/-- What the items of a command line come to. A line without a command asks for help. -/
def gather (verbosity : Verbosity) (logFile : Text) (surplus : Bool) :
    List (Item Key) → Meaning Invocation
  | [] => if surplus then .misuse else .help
  | .failure :: _ => .misuse
  | .position _ :: _ => .misuse
  | .surplus :: rest => gather verbosity logFile true rest
  | .command name words :: _ =>
    match Command.read name words with
    | .help => .help
    | .version => .version
    | .misuse => .misuse
    | .accepted command => if surplus then .misuse else .accepted ⟨verbosity, logFile, command⟩
  | .set .help _ :: _ => .help
  | .set .version _ :: _ => .version
  | .set .verbose _ :: rest => gather { verbosity with verbose := true } logFile surplus rest
  | .set .debug _ :: rest => gather { verbosity with debug := true } logFile surplus rest
  | .set .quiet _ :: rest => gather { verbosity with quiet := true } logFile surplus rest
  | .set .logFile value :: rest => gather verbosity (value.getD []) surplus rest

/-- Reads a command line. -/
def read (words : List Text) : Meaning Invocation :=
  if hasAmbiguity switches words then .misuse
  else gather {} [] false (items switches true ⟨0, false, none⟩ words)

end Invocation

end LittleMan
