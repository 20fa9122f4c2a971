import LittleMan.Text.DecimalDigit

/-!
# Words on a command line

A command line is a list of words. Some are options: a long one, as `--output`, or a short one, as
`-o`; a long name can be shortened as far as it fits no other. An option that takes a value has it
in the next word, or in the same word behind `=`, or, if it is short, directly behind its letter;
short options without a value can share a word. All other words fill positions in order. A word that
looks like a negative number or holds a space is not taken for an option, nor is a single dash, and
behind `--` no word is. The `--` goes with the position beside it and is dropped there. Two dashes
that are all there is are dropped as well, in a position as behind the name of an option: they leave
the position filled with nothing, and the option with nothing for a value.
-/

namespace LittleMan

namespace Arguments

/-- An option by the word that selects it. -/
structure Switch (κ : Type) where
  name : Text
  key : κ
  takesValue : Bool

/-- What a word, or a part of it, amounts to. -/
inductive Item (κ : Type) where
  /-- An option is given, with its value if it has one. -/
  | set (key : κ) (value : Option Text)
  /-- A position is filled, with nothing if its word was dropped. -/
  | position (word : Option Text)
  /-- The first word that is no option and all words behind it. -/
  | command (word : Text) (rest : List Text)
  /-- A word that nothing takes; the reading goes on, and fails in the end. -/
  | surplus
  /-- The reading fails here. -/
  | failure
deriving DecidableEq, Repr

/-- Whether a word is a minus sign and a decimal number; a line feed at its end does not count. -/
def looksNegative : Text → Bool
  | '-' :: written =>
    let isDigit (c : Char) := (Text.digitValue? c).isSome
    let number := if written.getLast? = some '\n' then written.dropLast else written
    match Text.after? '.' number with
    | none => !number.isEmpty && number.all isDigit
    | some places =>
      (Text.before '.' number).all isDigit && !places.isEmpty && places.all isDigit
  | _ => false

/-- The option that a word selects. -/
def find? {κ : Type} (switches : List (Switch κ)) (name : Text) : Option (Switch κ) :=
  switches.find? (·.name = name)

/-- Whether a word has the form of a long option. -/
def isLong (word : Text) : Bool :=
  word.take 2 = ['-', '-']

/-- What a word is, seen by itself. -/
inductive Shape (κ : Type) where
  /-- No option. -/
  | plain
  /-- The word behind which there are no options. -/
  | separator
  /-- An option without anything behind its name. -/
  | bare (s : Switch κ)
  /-- An option with text behind its name. -/
  | joined (s : Switch κ) (value : Text)
  /-- The form of an option, but none that there is. -/
  | unknown
  /-- A shortened long name that fits several options. -/
  | ambiguous

/-- What a word can be that starts with part of a long name, or with a short option. -/
def guesses {κ : Type} (switches : List (Switch κ)) (word : Text) : List (Shape κ) :=
  if isLong word then
    (switches.filter fun s => (Text.before '=' word).isPrefixOf s.name).map fun s =>
      match Text.after? '=' word with
      | some value => .joined s value
      | none => .bare s
  else ((find? switches (word.take 2)).map fun s => Shape.joined s (word.drop 2)).toList

/-- The shape of a word. A full name counts before a shortened one. -/
def shape {κ : Type} (switches : List (Switch κ)) (word : Text) : Shape κ :=
  if word = ['-', '-'] then .separator
  else if word.head? ≠ some '-' then .plain
  else match find? switches word with
    | some s => .bare s
    | none =>
      if word.length = 1 then .plain
      else match find? switches (Text.before '=' word), Text.after? '=' word with
        | some s, some value => .joined s value
        | _, _ => match guesses switches word with
          | [guess] => guess
          | [] => if looksNegative word || word.contains ' ' then .plain else .unknown
          | _ => .ambiguous

/-- Whether a command line has an ambiguous option, which fails it before anything else is read. -/
def hasAmbiguity {κ : Type} (switches : List (Switch κ)) (words : List Text) : Bool :=
  (words.takeWhile (· != ['-', '-'])).any fun word => match shape switches word with
    | .ambiguous => true
    | _ => false

/-- What a word amounts to that starts with an option: its items, and the option that waits for its
value in the next word. -/
abbrev Reading (κ : Type) := List (Item κ) × Option κ

/-- Puts an option without value in front of what the rest of a word amounts to; if that fails, so
does the whole word. -/
def Reading.behind {κ : Type} (key : κ) : Reading κ → Reading κ
  | ([.failure], waiting) => ([.failure], waiting)
  | (items, waiting) => (.set key none :: items, waiting)

/-- A word in its place, be it a position or the value of an option: two dashes are dropped. -/
def kept (word : Text) : Option Text :=
  if word = ['-', '-'] then none else some word

/-- What an option amounts to with text behind its name. If it is short and takes no value, the text
goes on with another short option. -/
def join {κ : Type} (switches : List (Switch κ)) (s : Switch κ) : Text → Reading κ
  | [] => if s.takesValue then ([.set s.key (some [])], none) else ([.failure], none)
  | c :: rest =>
    if s.takesValue then ([.set s.key (kept (c :: rest))], none)
    else if isLong s.name then ([.failure], none)
    else match find? switches ['-', c] with
      | none => ([.failure], none)
      | some next => Reading.behind s.key <|
        if rest.isEmpty then
          if next.takesValue then ([], some next.key) else ([.set next.key none], none)
        else join switches next rest

/-- Where the reading of a command line stands: how many positions are open, whether the word just
read filled one, and what was read of a word whose option waits for its value. -/
structure Progress (κ : Type) where
  positions : Nat
  filledLast : Bool
  waiting : Option (List (Item κ) × κ)

/-- The items of words that are no options, each alone in its position. -/
def fill {κ : Type} : Nat → List Text → List (Item κ)
  | _, [] => []
  | 0, _ :: rest => .surplus :: fill 0 rest
  | positions + 1, word :: rest => .position (kept word) :: fill positions rest

/-- The items of the words behind `--`, which goes with the position in front of it if that was just
filled, else with the next one if there is a word for it; and else it is surplus. -/
def fillBehind {κ : Type} (filledLast : Bool) : Nat → List Text → List (Item κ)
  | positions + 1, word :: rest =>
    if filledLast then fill (positions + 1) (word :: rest)
    else .position (some word) :: fill positions rest
  | positions, rest => if filledLast then fill positions rest else .surplus :: fill positions rest

/-- The items of a command line. If `hasCommands`, the first word that is no option is a command. -/
def items {κ : Type} (switches : List (Switch κ)) (hasCommands : Bool) (p : Progress κ) :
    List Text → List (Item κ)
  | [] => if p.waiting.isSome then [.failure] else []
  | word :: rest =>
    match p.waiting, shape switches word with
    | some (before, key), .plain =>
      before ++ .set key (some word) :: items switches hasCommands ⟨p.positions, false, none⟩ rest
    | some _, _ => [.failure]
    | none, .plain =>
      if hasCommands then [.command word rest]
      else match p.positions with
        | 0 => .surplus :: items switches hasCommands ⟨0, false, none⟩ rest
        | n + 1 => .position (some word) :: items switches hasCommands ⟨n, true, none⟩ rest
    | none, .separator =>
      if hasCommands then [.failure] else fillBehind p.filledLast p.positions rest
    | none, .bare s =>
      if s.takesValue then
        items switches hasCommands ⟨p.positions, false, some ([], s.key)⟩ rest
      else .set s.key none :: items switches hasCommands ⟨p.positions, false, none⟩ rest
    | none, .joined s value =>
      match join switches s value with
      | (before, some key) =>
        items switches hasCommands ⟨p.positions, false, some (before, key)⟩ rest
      | (before, none) => before ++ items switches hasCommands ⟨p.positions, false, none⟩ rest
    | none, .unknown => .surplus :: items switches hasCommands ⟨p.positions, false, none⟩ rest
    | none, .ambiguous => [.failure]

end Arguments

end LittleMan
