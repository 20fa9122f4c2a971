import LittleMan.Text.Blank
import LittleMan.Text.Numeral

/-!
# Decimal digits of every script

A count given on the command line may be written with the decimal digits of any script, with a
sign, with blanks around it, and with single underscores between its digits, but not with more
digits than are read. Each script has its ten digits in one stretch, zero first.
-/

namespace LittleMan

namespace Text

/-- The code points of the zeros of every script. -/
def zeroDigits : List Nat :=
  [0x30, 0x660, 0x6F0, 0x7C0, 0x966, 0x9E6, 0xA66, 0xAE6, 0xB66, 0xBE6, 0xC66, 0xCE6, 0xD66,
    0xDE6, 0xE50, 0xED0, 0xF20, 0x1040, 0x1090, 0x17E0, 0x1810, 0x1946, 0x19D0, 0x1A80, 0x1A90,
    0x1B50, 0x1BB0, 0x1C40, 0x1C50, 0xA620, 0xA8D0, 0xA900, 0xA9D0, 0xA9F0, 0xAA50, 0xABF0, 0xFF10,
    0x104A0, 0x10D30, 0x11066, 0x110F0, 0x11136, 0x111D0, 0x112F0, 0x11450, 0x114D0, 0x11650,
    0x116C0, 0x11730, 0x118E0, 0x11950, 0x11C50, 0x11D50, 0x11DA0, 0x16A60, 0x16AC0, 0x16B50,
    0x1D7CE, 0x1D7D8, 0x1D7E2, 0x1D7EC, 0x1D7F6, 0x1E140, 0x1E2F0, 0x1E950, 0x1FBF0]

/-- The value of a decimal digit of any script. -/
def digitValue? (c : Char) : Option Nat :=
  (zeroDigits.find? fun first => first ≤ c.toNat && c.toNat < first + 10).map (c.toNat - ·)

/-- Reads digits behind a number `value` already read; an underscore must have a digit on both
sides. -/
def continueCount? (value : Nat) : Text → Option Nat
  | [] => some value
  | '_' :: c :: rest => do continueCount? (10 * value + (← digitValue? c)) rest
  | c :: rest => do continueCount? (10 * value + (← digitValue? c)) rest

/-- Reads an unsigned count. -/
def count? : Text → Option Nat
  | [] => none
  | c :: rest => do continueCount? (← digitValue? c) rest

/-- The blanks that may stand around a count; the four separator controls may not. -/
def isCountBlank (c : Char) : Bool :=
  isBlank c && !(0x1C ≤ c.toNat && c.toNat ≤ 0x1F)

/-- Reads an unsigned count that does not have too many digits. -/
def boundedCount? (t : Text) : Option Nat :=
  if t.countP (· != '_') ≤ digitLimit then count? t else none

/-- Reads a signed count with blanks around it, given how an unsigned one is read. -/
def signed? (unsigned? : Text → Option Nat) (t : Text) : Option Int :=
  match dropEndWhile isCountBlank (t.dropWhile isCountBlank) with
  | '-' :: rest => (unsigned? rest).map (-Int.ofNat ·)
  | '+' :: rest => (unsigned? rest).map Int.ofNat
  | rest => (unsigned? rest).map Int.ofNat

/-- Reads a signed count with blanks around it that does not have too many digits. -/
def integer? (t : Text) : Option Int :=
  signed? boundedCount? t

end Text

end LittleMan
