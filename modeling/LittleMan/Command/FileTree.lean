import LittleMan.Command.Path
import LittleMan.Text.Utf8

/-!
# Files

The files that a command can see: those below a working directory, as a finite table of their
octets. A path is walked step by step; a step through something that is no directory, or that is not
there, fails with the error that an operating system gives, and so does opening a directory. Of what
lies outside the working directory only the directories above it are known, and nothing in them.
-/

namespace LittleMan

/-- Why a file cannot be opened. -/
inductive FileError where
  /-- The system refused, with an error number and its description. -/
  | refused (number : Nat) (description path : Text)
  /-- The path holds a NUL. -/
  | nulInPath
deriving DecidableEq, Repr

namespace FileError

/-- There is no such file. -/
def missing (path : Text) : FileError :=
  refused 2 "No such file or directory" path

/-- A step of the path is not a directory. -/
def notDirectory (path : Text) : FileError :=
  refused 20 "Not a directory" path

/-- The path leads to a directory. -/
def isDirectory (path : Text) : FileError :=
  refused 21 "Is a directory" path

/-- The path, or a name in it, is longer than the system allows. -/
def tooLong (path : Text) : FileError :=
  refused 36 "File name too long" path

/-- The error in words. -/
def message : FileError → Text
  | refused number description path =>
    "[Errno " ++ Text.digits number ++ "] " ++ description ++ ": " ++ Text.quoted path
  | nulInPath => "embedded null byte"

end FileError

/-- Where steps lead: to a place below the working directory, given by its names, or out of it. -/
inductive Place where
  | below (names : List Text)
  | outside
deriving DecidableEq, Repr

namespace Place

/-- The directory above a place. -/
def parent : Place → Place
  | below names => if names.isEmpty then outside else below names.dropLast
  | outside => outside

/-- The place of a name in a directory. -/
def child (name : Text) : Place → Place
  | below names => below (names ++ [name])
  | outside => outside

/-- Whether a step is no name: it stays, or leads up. -/
def isDots (step : Text) : Bool :=
  step == ['.'] || step == ['.', '.']

/-- Where a step leads. -/
def follow (place : Place) (step : Text) : Place :=
  if step = ['.'] then place else if step = ['.', '.'] then place.parent else place.child step

/-- The place that a path starts from. -/
def start (path : Text) : Place :=
  if path.head? = some '/' then outside else below []

/-- The places below the working directory that steps pass. -/
def passed (place : Place) : List Text → List (List Text)
  | [] => []
  | step :: rest =>
    match place.follow step with
    | below names => names :: passed (below names) rest
    | outside => passed outside rest

end Place

/-- The files below a working directory, by the names that lead to them, and the directories that
are there whether they hold a file or not. -/
structure FileTree where
  files : List (List Text × List UInt8) := []
  directories : List (List Text) := []
deriving DecidableEq, Repr

namespace FileTree

/-- What a place in the tree holds. -/
inductive Node where
  | file (octets : List UInt8)
  | directory
deriving DecidableEq, Repr

/-- What the names lead to. A directory is there if it was made or if something lies below it. -/
def node? (tree : FileTree) (names : List Text) : Option Node :=
  match tree.files.lookup names with
  | some octets => some (.file octets)
  | none =>
    if names.isEmpty || tree.directories.any (names.isPrefixOf ·) ||
        tree.files.any (names.isPrefixOf ·.1) then
      some .directory
    else none

/-- The number of octets that a name may have. -/
def nameLimit : Nat := 255

/-- The number of octets that a path may have. -/
def pathLimit : Nat := 4095

/-- Looks a name up in a directory. -/
def find (tree : FileTree) (path : Text) (place : Place) (name : Text) :
    Except FileError (Option Node) :=
  if (Text.Utf8.encode name).length > nameLimit then .error (.tooLong path)
  else match place with
    | .below names => .ok (tree.node? (names ++ [name]))
    | .outside => .ok none

/-- Walks from a directory through directories. -/
def walk (tree : FileTree) (path : Text) (place : Place) : List Text → Except FileError Place
  | [] => .ok place
  | step :: rest =>
    if Place.isDots step then tree.walk path (place.follow step) rest
    else match tree.find path place step with
      | .error e => .error e
      | .ok none => .error (.missing path)
      | .ok (some (.file _)) => .error (.notDirectory path)
      | .ok (some .directory) => tree.walk path (place.child step) rest

/-- What the last step of a path names. -/
inductive Target where
  /-- A directory, since it is no name. -/
  | directory
  /-- A name in a directory. -/
  | entry (place : Place) (name : Text)
deriving DecidableEq, Repr

/-- Walks a path up to its last step. -/
def locate (tree : FileTree) (path : Text) : Except FileError Target :=
  if Char.ofNat 0 ∈ path then .error .nulInPath
  else if path.isEmpty then .error (.missing path)
  else if (Text.Utf8.encode path).length > pathLimit then .error (.tooLong path)
  else match (Path.steps path).getLast? with
    | none => .ok .directory
    | some last =>
      match tree.walk path (Place.start path) (Path.steps path).dropLast with
      | .error e => .error e
      | .ok place => .ok (if Place.isDots last then .directory else .entry place last)

/-- Whether a path ends with a slash, so that it can only name a directory. -/
def wantsDirectory (path : Text) : Bool :=
  path.getLast? = some '/'

/-- The octets of a file. -/
def read (tree : FileTree) (path : Text) : Except FileError (List UInt8) :=
  match tree.locate path with
  | .error e => .error e
  | .ok .directory => .error (.isDirectory path)
  | .ok (.entry place name) =>
    match tree.find path place name with
    | .error e => .error e
    | .ok none => .error (.missing path)
    | .ok (some .directory) => .error (.isDirectory path)
    | .ok (some (.file octets)) =>
      if wantsDirectory path then .error (.notDirectory path) else .ok octets

/-- The tree with other octets at a place; outside of it nothing is seen. -/
def put (tree : FileTree) (octets : List UInt8) : Place → FileTree
  | .outside => tree
  | .below names =>
    if tree.files.any (·.1 = names) then
      { tree with files := tree.files.map fun f => if f.1 = names then (names, octets) else f }
    else { tree with files := tree.files ++ [(names, octets)] }

/-- Writes a file, new or in the place of an old one. -/
def write (tree : FileTree) (path : Text) (octets : List UInt8) : Except FileError FileTree :=
  match tree.locate path with
  | .error e => .error e
  | .ok .directory => .error (.isDirectory path)
  | .ok (.entry place name) =>
    if wantsDirectory path then .error (.isDirectory path)
    else match tree.find path place name with
      | .error e => .error e
      | .ok (some .directory) => .error (.isDirectory path)
      | .ok (some (.file _)) | .ok none => .ok (tree.put octets (place.child name))

/-- The steps to the directory of a file. -/
def parentSteps (path : Text) : List Text :=
  (Path.components path).dropLast

/-- The tree with the directories on the way to a file. -/
def makeParents (tree : FileTree) (path : Text) : FileTree :=
  { tree with
    directories := tree.directories ++ (Place.start path).passed (parentSteps path) }

/-- Whether a path names something outside the working directory. -/
def leadsOutside (path : Text) : Bool :=
  (parentSteps path).foldl Place.follow (Place.start path) = .outside &&
    (Path.components path).getLast?.any (!Place.isDots ·)

/-- Writes at the end of a file, which is made with its directories if it is not there. A slash at
the end of its path does not count. -/
def append (tree : FileTree) (path : Text) (octets : List UInt8) : Except FileError FileTree :=
  let made := tree.makeParents path
  if leadsOutside path then .ok made
  else match made.read (Path.normal path) with
    | .ok old => made.write (Path.normal path) (old ++ octets)
    | .error _ => made.write (Path.normal path) octets

end FileTree

end LittleMan
