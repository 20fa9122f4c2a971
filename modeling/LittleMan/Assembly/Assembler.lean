import LittleMan.Assembly.Request

/-!
# Assemblers

An assembler is a workbench on which sources are assembled one after the other. It holds a table of
labels, a counter of mailboxes, an image, a size, errors, and the lines that were read, each with
the mailbox and the word that the passes gave to it. What is on the bench stays there until the next
source comes.

The first pass goes through the lines of a source and gives a mailbox to every statement. It stops
at the first statement for which none is left, and then the size is not set. If it found an error,
the second pass is left out. That one goes through the lines on the bench with the counter back at
zero and gives every statement its word; the image is only put on the bench if it found no error.
At a literal that cannot be read it stops: the lines from there on stay as the first pass left them.
-/

namespace LittleMan

namespace Assembly

/-- A line on the bench. -/
structure KeptLine where
  line : SourceLine
  /-- The mailbox that the first pass gave to it. -/
  address : Option Nat := none
  /-- The word that the second pass gave to it. -/
  word : Option Int := none
deriving DecidableEq, Repr

/-- The error with which the second pass stops at a line on the bench, if it does. -/
def KeptLine.stop? (symbols : Symbols) (k : KeptLine) : Option Error :=
  match k.line.statement with
  | none => none
  | some s => match s.word symbols with
    | .error cause => if cause.stops then some (k.line.error cause) else none
    | .ok _ => none

/-- The row of a line on the bench in a listing, if it has one. -/
def KeptLine.row? (k : KeptLine) : Option Text :=
  match k.address, k.word with
  | some address, some word => some (encodedRow address word k.line.text)
  | _, _ => plainRow? k.line.text

end Assembly

/-- An assembler, by default a new one. -/
structure Assembler where
  symbols : Assembly.Symbols := []
  counter : Nat := 0
  image : List Int := List.replicate mailboxCount 0
  size : Nat := 0
  errors : List Assembly.Error := []
  lines : List Assembly.KeptLine := []
deriving DecidableEq, Repr

namespace Assembler

open Assembly

/-- Puts a line behind those on the bench. -/
def keep (a : Assembler) (k : KeptLine) : Assembler :=
  { a with lines := a.lines ++ [k] }

/-- Puts an error behind those that were found. -/
def report (a : Assembler) (e : Error) : Assembler :=
  { a with errors := a.errors ++ [e] }

/-- Gives the next mailbox to a statement and to its label. -/
def assign (a : Assembler) (s : Statement) : Assembler :=
  { a with
    symbols := a.symbols ++ (s.label.map (·, a.counter)).toList
    counter := a.counter + 1 }

/-- What the first pass does with a line: the bench afterwards, and what is wrong with the line. -/
def place (a : Assembler) (line : SourceLine) : Assembler × Option Cause :=
  match line.statement with
  | none => (a.keep { line }, none)
  | some s =>
    if a.counter ≥ mailboxCount then (a.keep { line }, some .programTooLarge)
    else
      let kept := a.keep { line, address := some a.counter }
      match s.clash? a.symbols with
      | some (name, address) => (kept, some (.duplicateLabel name address))
      | none => (kept.assign s, none)

/-- The first pass over the lines from number `number` on. -/
def firstPass (number : Int) (a : Assembler) : List Text → Assembler
  | [] => { a with size := a.counter }
  | raw :: rest =>
    match SourceLine.parse number (Text.dropBreaks raw) with
    | .error e => firstPass (number + 1) (a.report e) rest
    | .ok line =>
      match a.place line with
      | (after, none) => firstPass (number + 1) after rest
      | (after, some .programTooLarge) => after.report (line.error .programTooLarge)
      | (after, some cause) => firstPass (number + 1) (after.report (line.error cause)) rest

/-- What the second pass does with a line: the bench and the words afterwards. -/
def encode (a : Assembler) (words : List Int) (k : KeptLine) : Assembler × List Int :=
  match k.line.statement with
  | none => (a.keep k, words)
  | some s =>
    let counted := { a with counter := a.counter + 1 }
    match s.word a.symbols with
    | .error cause => ((counted.keep k).report (k.line.error cause), words)
    | .ok word => (counted.keep { k with word := some word }, words.set a.counter word)

/-- The second pass over the lines that are left: the bench afterwards, and the words, unless a line
stops the pass. -/
def encodeLines (a : Assembler) (words : List Int) :
    List KeptLine → Assembler × Except Error (List Int)
  | [] => (a, .ok words)
  | k :: rest =>
    match k.stop? a.symbols with
    | some e => ({ a with lines := a.lines ++ k :: rest }, .error e)
    | none =>
      let (after, words) := a.encode words k
      encodeLines after words rest

/-- The second pass over the lines on the bench: the bench afterwards, and an image. -/
def secondPass (a : Assembler) : Assembler × Except Error (List Int) :=
  encodeLines { a with counter := 0, lines := [] } (List.replicate mailboxCount 0) a.lines

/-- Clears the bench for a source. The counter stays, since each pass sets it. -/
def clear (a : Assembler) : Assembler :=
  { a with
    symbols := []
    image := List.replicate mailboxCount 0
    size := 0
    errors := []
    lines := [] }

/-- Assembles a source: the bench afterwards, and the image or the error that is reported. -/
def assemble (a : Assembler) (source : Source) : Assembler × Except Error (List Int) :=
  let laidOut := firstPass 1 { a.clear with counter := 0 } source.toLines
  match laidOut.errors with
  | e :: _ => (laidOut, .error e)
  | [] =>
    match laidOut.secondPass with
    | (encoded, .error e) => (encoded, .error e)
    | (encoded, .ok image) =>
      match encoded.errors with
      | e :: _ => (encoded, .error e)
      | [] => ({ encoded with image }, .ok image)

/-- The image on the bench as machine-code text. -/
def machineCode (a : Assembler) : Text :=
  MachineCode.render a.image

/-- The listing of the lines on the bench. -/
def listing (a : Assembler) : Text :=
  listingWith (a.lines.filterMap KeptLine.row?) a.size a.symbols.length

/-- Carries out a request: the bench afterwards, and the answer or the error. -/
def handle (a : Assembler) : Request → Assembler × Except Error Reply
  | .assemble source =>
    let (after, outcome) := a.assemble source
    (after, outcome.map .words)
  | .machineCode => (a, .ok (.text a.machineCode))
  | .listing => (a, .ok (.text a.listing))
  | .image => (a, .ok (.words a.image))

/-- Carries out the requests of a session one after the other. -/
def session (a : Assembler) : List Request → Assembler
  | [] => a
  | request :: rest => (a.handle request).1.session rest

end Assembler

end LittleMan
