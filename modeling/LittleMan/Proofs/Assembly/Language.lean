import LittleMan.Assembly.Encoding
import Mathlib.Data.List.Forall2

/-!
# The assembly language

What a source means, said without the two passes. A line is read by itself: `Reads` classifies its
fields by their count. The lines that have fields are the program, one statement each, and the
`k`-th statement belongs to mailbox `k`. An operand denotes its value if it is a literal, and
otherwise the mailbox of the statement that carries it as a label, wherever in the program that
statement stands (`Denotes`). A statement encodes to the word that its mnemonic and its operand
give (`Encodes`).

`IsProgram` says that a source is in the language, and `IsImage` which words it then stands for.
-/

namespace LittleMan

namespace Assembly

/-! ### Vocabulary -/

/-- The mnemonics of the instructions on a mailbox, each with its word for mailbox zero. -/
def addressedWords : List (Text × Int) :=
  [("ADD", 100), ("SUB", 200), ("STO", 300), ("STA", 300), ("LDA", 500), ("BR", 600),
    ("BRZ", 700), ("BRP", 800)]

/-- The mnemonics of the instructions without operand, each with its word. -/
def fixedWords : List (Text × Int) :=
  [("HLT", 0), ("COB", 0), ("IN", 901), ("OUT", 902)]

/-- The mnemonic of the directive that places a word. -/
def dataDirective : Text := "DAT"

/-- A mnemonic, in upper case. -/
def IsKnown (mnemonic : Text) : Prop :=
  (∃ word, (mnemonic, word) ∈ addressedWords) ∨ (∃ word, (mnemonic, word) ∈ fixedWords) ∨
    mnemonic = dataDirective

/-- A letter of ASCII or the underscore. -/
def IsNameLetter (c : Char) : Prop :=
  ('A' ≤ c ∧ c ≤ 'Z') ∨ ('a' ≤ c ∧ c ≤ 'z') ∨ c = '_'

/-- A decimal digit of ASCII. -/
def IsDecimalDigit (c : Char) : Prop :=
  '0' ≤ c ∧ c ≤ '9'

/-- A name: letters, digits and underscores, no digit first. -/
def IsWellFormedName (t : Text) : Prop :=
  ∃ c rest, t = c :: rest ∧ IsNameLetter c ∧ ∀ d ∈ rest, IsNameLetter d ∨ IsDecimalDigit d

/-- An unsigned decimal literal. -/
def IsLiteral (t : Text) : Prop :=
  t ≠ [] ∧ ∀ c ∈ t, IsDecimalDigit c

/-- A literal, be it with a minus sign in front, that has `count` digits and thereby more than are
read. -/
def IsOverlong (operand : Text) (count : Nat) : Prop :=
  ∃ ds, (operand = ds ∨ operand = '-' :: ds) ∧ IsLiteral ds ∧ ds.length = count ∧ 4300 < count

/-! ### Lines -/

/-- The fields of a line: what stands in front of the comment, split at its blanks. -/
def lineFields (line : Text) : List Text :=
  Text.fields (Text.before '#' line)

/-- A field defines a label: it is a name, with or without a colon behind it, and the name is no
mnemonic in any case. -/
def DefinesLabel (field name : Text) : Prop :=
  (field = name ∨ field = name ++ [':']) ∧ IsWellFormedName name ∧ ¬ IsKnown (Text.upper name)

/-- The fields of a line as a statement. -/
inductive Reads : List Text → Statement → Prop where
  /-- One field is a mnemonic. -/
  | mnemonic (m : Text) : Reads [m] ⟨none, Text.upper m, none⟩
  /-- Two fields are a mnemonic and its operand if the first one is a mnemonic. -/
  | operand (m operand : Text) (known : IsKnown (Text.upper m)) :
      Reads [m, operand] ⟨none, Text.upper m, some operand⟩
  /-- Otherwise two fields are a label and a mnemonic. -/
  | label (field name m : Text) (unknown : ¬ IsKnown (Text.upper field))
      (defines : DefinesLabel field name) : Reads [field, m] ⟨some name, Text.upper m, none⟩
  /-- Three fields are a label, a mnemonic and its operand. -/
  | full (field name m operand : Text) (defines : DefinesLabel field name) :
      Reads [field, m, operand] ⟨some name, Text.upper m, some operand⟩

/-- The lines of a source that are not empty in front of their comment. -/
def codeLines (source : List Text) : List Text :=
  source.filter fun line => lineFields line ≠ []

/-- The statements of a source, one for each line that is not empty. -/
def ReadsAs (source : List Text) (program : List Statement) : Prop :=
  List.Forall₂ (fun line s => Reads (lineFields line) s) (codeLines source) program

/-! ### Programs -/

/-- The labels of a program, in the order of definition. -/
def labels (program : List Statement) : List Text :=
  program.filterMap Statement.label

/-- What an operand stands for. -/
inductive Denotes (program : List Statement) (limit : Nat) (operand : Text) : Nat → Prop where
  /-- A literal stands for its value, which must not exceed the limit; and it must not have more
  digits than are read, zeros in front of it included. -/
  | literal (digits : IsLiteral operand) (short : operand.length ≤ 4300)
      (le : Text.digitsValue operand ≤ limit) :
      Denotes program limit operand (Text.digitsValue operand)
  /-- A label stands for the mailbox of the statement that defines it. -/
  | label (k : Nat) (s : Statement) (at_k : program[k]? = some s)
      (defined : s.label = some operand) : Denotes program limit operand k

/-- The word of a statement. -/
inductive Encodes (program : List Statement) : Statement → Int → Prop where
  /-- An instruction on a mailbox has one operand, the mailbox. -/
  | addressed (label : Option Text) (m operand : Text) (base : Int) (address : Nat)
      (known : (m, base) ∈ addressedWords) (denotes : Denotes program 99 operand address) :
      Encodes program ⟨label, m, some operand⟩ (base + address)
  /-- The other instructions have no operand. -/
  | fixed (label : Option Text) (m : Text) (word : Int) (known : (m, word) ∈ fixedWords) :
      Encodes program ⟨label, m, none⟩ word
  /-- The directive alone places zero. -/
  | blank (label : Option Text) : Encodes program ⟨label, dataDirective, none⟩ 0
  /-- The directive with an operand places what the operand stands for. -/
  | data (label : Option Text) (operand : Text) (value : Nat)
      (denotes : Denotes program 999 operand value) :
      Encodes program ⟨label, dataDirective, some operand⟩ value

/-- A source in the language, and its statements. -/
structure IsProgram (source : List Text) (program : List Statement) : Prop where
  readsAs : ReadsAs source program
  labels_nodup : (labels program).Nodup
  length_le : program.length ≤ 100
  encodes : ∀ s ∈ program, ∃ word, Encodes program s word

/-- A hundred words: those of the statements in order, and zeros behind them. -/
structure IsImage (program : List Statement) (image : List Int) : Prop where
  length_eq : image.length = 100
  encodes : ∀ (k : Nat) (s : Statement), program[k]? = some s →
    ∃ word : Int, Encodes program s word ∧ image[k]? = some word
  zero : ∀ k : Nat, program.length ≤ k → k < 100 → image[k]? = some 0

end Assembly

end LittleMan
