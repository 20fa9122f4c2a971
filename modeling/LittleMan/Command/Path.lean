import LittleMan.Text.Lower

/-!
# Paths

A path names a file by steps, set apart by slashes: a single dot stays, two dots lead up, and any
other step is a name. The type of a file is told by the suffix of what stands behind the last slash,
in lower case: from the last dot on, unless only dots stand before it.
-/

namespace LittleMan

namespace Path

/-- The steps of a path, dots among them; nothing between two slashes is no step. -/
def steps (path : Text) : List Text :=
  (path.splitOn '/').filter (!·.isEmpty)

/-- The components of a path: the steps but for single dots, which lead nowhere. -/
def components (path : Text) : List Text :=
  (steps path).filter (· != ['.'])

/-- The root that a path starts from: empty for a relative path, and two slashes for a path that has
exactly two in front. -/
def root : Text → Text
  | '/' :: '/' :: '/' :: _ => ['/']
  | '/' :: '/' :: _ => ['/', '/']
  | '/' :: _ => ['/']
  | _ => []

/-- A path without what leads nowhere: single dots, and slashes that no step follows. -/
def normal (path : Text) : Text :=
  let short := root path ++ List.intercalate ['/'] (components path)
  if short.isEmpty then ['.'] else short

/-- What stands behind the last slash of a path. -/
def lastComponent (path : Text) : Text :=
  (path.reverse.takeWhile (· != '/')).reverse

/-- The suffix of a path as it is written, empty if it has none. -/
def suffix (path : Text) : Text :=
  let backwards := (lastComponent path).reverse
  match backwards.dropWhile (· != '.') with
  | dot :: stem =>
    if stem.any (· != '.') then dot :: (backwards.takeWhile (· != '.')).reverse else []
  | [] => []

/-- The suffix that tells the type of a file. -/
def type (path : Text) : Text :=
  Text.lower (suffix path)

/-- The suffixes of source files. -/
def sourceTypes : List Text :=
  [".asm", ".lmc", ".s"]

/-- The suffixes of machine-code files. -/
def machineCodeTypes : List Text :=
  [".mc", ".txt", ".obj"]

/-- The suffix of a file that takes a listing in the place of machine code. -/
def listingType : Text :=
  ".lst"

end Path

end LittleMan
