import LittleMan.Text.Numeral
import LittleMan.Text.Quoted

/-!
# UTF-8

Files hold text as UTF-8. A character takes one to four octets; the first octet says how many, and
bounds the second, so that no character is written longer than it must be, none is a surrogate and
none lies beyond the last code point. Decoding stops at the first octet that no such sequence can
hold there, and says which octets were at fault.
-/

namespace LittleMan

namespace Text

namespace Utf8

/-- What is wrong with a sequence of octets. -/
inductive Flaw where
  /-- The octet starts no character. -/
  | invalidStart
  /-- The next octet does not continue the character. -/
  | invalidContinuation
  /-- The octets end inside a character. -/
  | unexpectedEnd
deriving DecidableEq, Repr

/-- The flaw in words. -/
def Flaw.reason : Flaw → Text
  | .invalidStart => "invalid start byte"
  | .invalidContinuation => "invalid continuation byte"
  | .unexpectedEnd => "unexpected end of data"

/-- Where decoding stopped: at `count` octets from position `start` on, the first of them
`octet`. -/
structure Defect where
  flaw : Flaw
  start : Nat
  octet : UInt8
  count : Nat
deriving DecidableEq, Repr

/-- The defect in words. A single octet is shown, several are given by their positions. -/
def Defect.message (d : Defect) : Text :=
  let place : Text :=
    if d.count = 1 then
      "byte 0x" ++ hexPadded 2 d.octet.toNat ++ " in position " ++ digits d.start
    else
      "bytes in position " ++ digits d.start ++ "-" ++ digits (d.start + d.count - 1)
  "'utf-8' codec can't decode " ++ place ++ ": " ++ d.flaw.reason

/-- A character of which some octets are read: where it starts, its first octet, how many octets
are read and how many are owed, the bounds of the next one, and the bits gathered so far. -/
structure Pending where
  start : Nat
  octet : UInt8
  count : Nat
  owed : Nat
  low : UInt8
  high : UInt8
  bits : Nat

/-- The defect of a character that breaks off. -/
def Pending.defect (p : Pending) (flaw : Flaw) : Defect :=
  ⟨flaw, p.start, p.octet, p.count⟩

/-- What the first octet of a character longer than one octet opens. -/
def open? (start : Nat) (b : UInt8) : Option Pending :=
  if 0xC2 ≤ b ∧ b ≤ 0xDF then some ⟨start, b, 1, 1, 0x80, 0xBF, b.toNat - 0xC0⟩
  else if 0xE0 ≤ b ∧ b ≤ 0xEF then
    some ⟨start, b, 1, 2, if b = 0xE0 then 0xA0 else 0x80, if b = 0xED then 0x9F else 0xBF,
      b.toNat - 0xE0⟩
  else if 0xF0 ≤ b ∧ b ≤ 0xF4 then
    some ⟨start, b, 1, 3, if b = 0xF0 then 0x90 else 0x80, if b = 0xF4 then 0x8F else 0xBF,
      b.toNat - 0xF0⟩
  else none

/-- The text of the octets from position `pos` on, behind the pending character if there is one. -/
def decodeFrom (pos : Nat) : Option Pending → List UInt8 → Except Defect Text
  | none, [] => .ok []
  | some p, [] => .error (p.defect .unexpectedEnd)
  | none, b :: rest =>
    if b < 0x80 then (Char.ofNat b.toNat :: ·) <$> decodeFrom (pos + 1) none rest
    else match open? pos b with
      | some p => decodeFrom (pos + 1) (some p) rest
      | none => .error ⟨.invalidStart, pos, b, 1⟩
  | some p, b :: rest =>
    if p.low ≤ b ∧ b ≤ p.high then
      let bits := 64 * p.bits + (b.toNat - 0x80)
      if p.owed = 1 then (Char.ofNat bits :: ·) <$> decodeFrom (pos + 1) none rest
      else
        decodeFrom (pos + 1) (some ⟨p.start, p.octet, p.count + 1, p.owed - 1, 0x80, 0xBF, bits⟩)
          rest
    else .error (p.defect .invalidContinuation)

/-- The text that a file's octets hold. -/
def decode (octets : List UInt8) : Except Defect Text :=
  decodeFrom 0 none octets

/-- The octets of a text. -/
def encode (t : Text) : List UInt8 :=
  t.flatMap String.utf8EncodeChar

end Utf8

end Text

end LittleMan
