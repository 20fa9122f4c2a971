import LittleMan.Text.Basic

/-!
# Help

What the console shows when it is asked for help, or when a command line cannot be read.
-/

namespace LittleMan

namespace Console

/-- The row that says how the toolkit is called. -/
def usageRow : Text :=
  "usage: lmcc [-h] [--version] [-v] [--debug] [-q] [--log-file FILE] command ..."

/-- The rows of the help. -/
def helpRows : List Text :=
  [usageRow,
    "",
    "Little Man Computer toolkit: assemble, run, batch test, disassemble",
    "",
    "commands:",
    "  asm SOURCE [-o FILE] [--listing]",
    "          assemble a source to machine code, or print a listing",
    "  run PROGRAM [--input WORDS] [--max-cycles N] [--trace] [--dump]",
    "          run a program and print every value it writes",
    "  batch PROGRAM TESTS",
    "          run test records (name;inputs;result;max_cycles) on a program",
    "  disasm PROGRAM [--all]",
    "          disassemble the mailboxes of a program",
    "",
    "options:",
    "  -h, --help       show this help",
    "  --version        show the version",
    "  -v, --verbose    tell the progress",
    "  --debug          tell every pass and instruction",
    "  -q, --quiet      tell errors only",
    "  --log-file FILE  write a log to this file"]

end Console

end LittleMan
