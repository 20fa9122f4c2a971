import LittleMan.Assembly.Listing

/-!
# Requests to an assembler

What an assembler is to answer, told by the assembly of the source that it was given last and by
nothing else. A new one stands as if it had been given a source without lines.
-/

namespace LittleMan

namespace Assembly

/-- What can be asked of an assembler. -/
inductive Request where
  /-- Assemble a source. -/
  | assemble (source : Source)
  /-- Show the image as machine-code text. -/
  | machineCode
  /-- Show the listing. -/
  | listing
  /-- Tell the image. -/
  | image
deriving DecidableEq, Repr

/-- What an assembler answers to a request. -/
inductive Reply where
  | words (ws : List Int)
  | text (t : Text)
deriving DecidableEq, Repr

/-- Carries out a request: the assembly that is kept afterwards, and the answer or the error. -/
def handle (a : Assembly) : Request → Assembly × Except Error Reply
  | .assemble source =>
    let after := ofSource source
    (after, after.result.map .words)
  | .machineCode => (a, .ok (.text a.machineCode))
  | .listing => (a, .ok (.text a.listing))
  | .image => (a, .ok (.words a.image))

/-- Carries out the requests of a session one after the other. -/
def session (a : Assembly) : List Request → Assembly
  | [] => a
  | request :: rest => (a.handle request).1.session rest

end Assembly

end LittleMan
