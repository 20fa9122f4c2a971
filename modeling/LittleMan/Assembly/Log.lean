import LittleMan.Assembly.Basic
import LittleMan.Log

/-!
# The log of an assembly

What the log tells of an assembly: the number of lines, the labels and their mailboxes, the encoded
lines, and then either every error of the pass that failed or what was assembled; of an assembly
that was stopped it tells no more than the lines encoded before.
-/

namespace LittleMan

namespace Assembly

/-- What the log tells of an entry that was encoded. -/
def encodedLine? : Entry × Option Int → Option Text
  | (.placed line _ address, some word) =>
    some (Text.zeroPadded 2 address ++ ": " ++ Text.zeroPadded 3 word ++ "    " ++
      Text.strip line.text)
  | _ => none

/-- What the log tells of the errors of a pass that came to its end. -/
def errorLines (a : Assembly) (pass : Text) : List Text :=
  if a.stop?.isSome then [] else a.errors.map fun e => pass ++ " error: " ++ e.message

/-- What the log tells of an assembly. -/
def logLines (a : Assembly) : List Log.Line :=
  let debug (message : Text) : Log.Line := ⟨.debug, .assembler, message⟩
  let info (message : Text) : Log.Line := ⟨.info, .assembler, message⟩
  let opening := info ("Assembling " ++ Text.digits a.lineCount ++ " source lines")
  let labels := a.symbols.map fun (name, address) =>
    debug ("label " ++ name ++ " = " ++ Text.zeroPadded 2 address)
  let passes :=
    if a.isLaidOut then a.wordedEntries.filterMap encodedLine? ++ a.errorLines "Pass 2"
    else a.errorLines "Pass 1"
  let closing :=
    if a.failure?.isNone then
      [info ("Assembled " ++ Text.digits a.size ++ " mailboxes, " ++
        Text.digits a.symbols.length ++ " labels")]
    else []
  opening :: labels ++ passes.map debug ++ closing

end Assembly

end LittleMan
