import LittleMan.Text.Basic

/-!
# Decimal numerals

Numbers are written with the ten ASCII digits. A field of fixed width is filled with zeros after
the sign, and the sign counts in the width: width three shows `7` as `007` and `-5` as `-05`; a
number that is too long for its field is written in full. Only an unsigned run of ASCII digits
reads as a number, with any count of leading zeros.

Numbers and numerals are converted into each other up to a limit on the number of digits, leading
zeros of a numeral included. Whoever reads or writes a number that may lie beyond the limit asks
first, and tells the overflow.
-/

namespace LittleMan

namespace Text

/-- The decimal digits of a natural number, without leading zeros. -/
def digits (n : Nat) : Text :=
  Nat.toDigits 10 n

/-- An integer in decimal, with a minus sign if it is negative. -/
def decimal (n : Int) : Text :=
  if n < 0 then '-' :: digits n.natAbs else digits n.natAbs

/-- An integer in decimal, filled with zeros after the sign to at least `width` characters. -/
def zeroPadded (width : Nat) (n : Int) : Text :=
  if n < 0 then '-' :: (digits n.natAbs).leftpad (width - 1) '0'
  else (digits n.natAbs).leftpad width '0'

/-- The most digits of a numeral that is read, and of a number that is written. -/
def digitLimit : Nat := 4300

/-- Whether an integer has few enough digits to be written. -/
def isWritable (n : Int) : Bool :=
  (digits n.natAbs).length ≤ digitLimit

/-- A number or a numeral has too many digits to be converted. -/
inductive Overflow where
  /-- A numeral of `count` digits was to be read. -/
  | reading (count : Nat)
  /-- A number was to be written. -/
  | writing
deriving DecidableEq, Repr

/-- The name under which an overflow is reported. -/
def Overflow.kindName : Text :=
  "ValueError"

/-- An overflow in words. -/
def Overflow.message (o : Overflow) : Text :=
  let found : Text := match o with
    | reading count => ": value has " ++ digits count ++ " digits"
    | writing => []
  "Exceeds the limit (" ++ digits digitLimit ++ " digits) for integer string conversion" ++ found ++
    "; use sys.set_int_max_str_digits() to increase the limit"

/-- A text in which these integers are written, unless one of them has too many digits. -/
def withIntegers (ns : List Int) (t : Text) : Except Overflow Text :=
  if ns.all isWritable then .ok t else .error .writing

/-- Whether the text is an unsigned decimal numeral in ASCII digits. -/
def isNumeral (t : Text) : Bool :=
  !t.isEmpty && t.all Char.isDigit

/-- The value of a run of ASCII digits. -/
def digitsValue (t : Text) : Nat :=
  Nat.ofDigitChars 10 t 0

/-- Reads a run of ASCII digits. -/
def readDigits (t : Text) : Except Overflow Nat :=
  if t.length ≤ digitLimit then .ok (digitsValue t) else .error (.reading t.length)

/-- Reads an unsigned decimal numeral, if the text is one. -/
def numeral? (t : Text) : Option (Except Overflow Nat) :=
  if isNumeral t then some (readDigits t) else none

end Text

end LittleMan
