import LittleMan.Assembly.Encoding
import LittleMan.MachineCode

/-!
# Assembling a source

An assembly is what two passes make of a source. The first pass lays the source out; only if it
finds no error, the second pass encodes the placed statements. All errors of the failing pass are
kept, in line order, and the first of them is the one reported, unless the second pass stops at a
literal: then this is reported, whatever was found before. An assembly without errors yields the
image, a hundred words: the words of the statements in order of their mailboxes, and zeros.
-/

namespace LittleMan

/-- A source: a text, which falls into lines, or lines, which may hold breaks themselves. -/
inductive Source where
  | text (t : Text)
  | lines (ls : List Text)
deriving DecidableEq, Repr

/-- The lines of a source. -/
def Source.toLines : Source → List Text
  | text t => Text.lines t
  | lines ls => ls

/-- What the passes make of a source; by default, of one without lines. -/
structure Assembly where
  /-- The number of source lines. -/
  lineCount : Nat := 0
  /-- What the first pass made of the lines. -/
  entries : List Assembly.Entry := []
deriving DecidableEq, Repr

namespace Assembly

/-- The assembly of a source. -/
def ofSource (source : Source) : Assembly :=
  ⟨source.toLines.length, layout source.toLines⟩

/-- The labels and their mailboxes. -/
def symbols (a : Assembly) : Symbols :=
  symbolsOf a.entries

/-- Whether the first pass found no error, so that there is a second one. -/
def isLaidOut (a : Assembly) : Bool :=
  (layoutErrors a.entries).isEmpty

/-- The entries that the pass that came last got through. -/
def reachedEntries (a : Assembly) : List Entry :=
  if a.isLaidOut then reached a.symbols a.entries else a.entries

/-- The error with which the second pass stops, if it does. -/
def stop? (a : Assembly) : Option Error :=
  if a.isLaidOut then a.entries.findSome? (Entry.stop? a.symbols) else none

/-- The errors of the pass that failed. -/
def errors (a : Assembly) : List Error :=
  if a.isLaidOut then encodingErrors a.symbols a.entries else layoutErrors a.entries

/-- The mailboxes given away in the pass that came last. -/
def counter (a : Assembly) : Nat :=
  placedCount a.reachedEntries

/-- The number of mailboxes used, known once the first pass has seen all lines. -/
def size (a : Assembly) : Nat :=
  if a.entries.any Entry.isOverflowing then 0 else placedCount a.entries

/-- The entries, each with the word that the second pass gave to it. -/
def wordedEntries (a : Assembly) : List (Entry × Option Int) :=
  let worded := if a.isLaidOut then a.reachedEntries else []
  worded.map (fun e => (e, (e.word? a.symbols).bind (·.toOption))) ++
    (a.entries.drop worded.length).map (·, none)

/-- The error that is reported. -/
def failure? (a : Assembly) : Option Error :=
  a.stop?.or a.errors.head?

/-- The image, all zeros after a failure. -/
def image (a : Assembly) : List Int :=
  padded (if a.failure?.isNone then wordsOf a.symbols a.entries else [])

/-- The image, or the error that is reported. -/
def result (a : Assembly) : Except Error (List Int) :=
  match a.failure? with
  | none => .ok a.image
  | some e => .error e

/-- The image as machine-code text. -/
def machineCode (a : Assembly) : Text :=
  MachineCode.render a.image

end Assembly

/-- Assembles a source. -/
def assemble (source : Source) : Except Assembly.Error (List Int) :=
  (Assembly.ofSource source).result

end LittleMan
