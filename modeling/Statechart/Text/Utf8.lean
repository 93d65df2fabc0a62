import Statechart.Text.Quoted
import Statechart.Numeral.Digits

/-!
# UTF-8

Texts are stored as bytes in UTF-8.  `Utf8.encode` writes a text, and `Utf8.decode` reads bytes
strictly: overlong forms, halves of surrogate pairs and codes beyond U+10FFFF are faults.  A fault
tells which bytes are wrong, where they stand, and what is wrong with them.
-/

namespace Statechart.Utf8

/-- The byte of a number below 256. -/
def byte (n : Nat) : UInt8 := UInt8.ofNat n

/-- The byte that carries the lowest six bits of a number, when `shift` more bytes follow. -/
def continuation (n shift : Nat) : UInt8 := byte (0x80 + n / Nat.pow 64 shift % 64)

/-- The bytes of a character. -/
def encodeChar (c : Char) : List UInt8 :=
  let n := c.toNat
  if n < 0x80 then [byte n]
  else if n < 0x800 then [byte (0xC0 + n / 64), continuation n 0]
  else if n < 0x10000 then [byte (0xE0 + n / Nat.pow 64 2), continuation n 1, continuation n 0]
  else
    [byte (0xF0 + n / Nat.pow 64 3), continuation n 2, continuation n 1, continuation n 0]

/-- The bytes of a text. -/
def encode (s : Text) : List UInt8 := s.flatMap encodeChar

/-- What is wrong with bytes. -/
inductive Defect where
  /-- No character starts with this byte. -/
  | invalidStart
  /-- The byte after these does not go on with their character. -/
  | invalidContinuation
  /-- The bytes end inside a character. -/
  | unexpectedEnd
  deriving DecidableEq, Inhabited

/-- Bytes that are no UTF-8. -/
structure Fault where
  /-- What is wrong. -/
  defect : Defect
  /-- The number of bytes before the wrong ones. -/
  position : Nat
  /-- The first of the wrong bytes. -/
  first : UInt8
  /-- The number of wrong bytes after the first one. -/
  more : Nat
  deriving DecidableEq, Inhabited

/-- What a defect is called. -/
def Defect.message : Defect → Text
  | .invalidStart => "invalid start byte".toList
  | .invalidContinuation => "invalid continuation byte".toList
  | .unexpectedEnd => "unexpected end of data".toList

/-- The message of a fault. -/
def Fault.message (f : Fault) : Text :=
  let place :=
    if f.more = 0 then
      "byte 0x".toList ++ Text.hex 2 f.first.toNat ++ " in position ".toList ++
        Digits.ofNat f.position
    else
      "bytes in position ".toList ++ Digits.ofNat f.position ++ '-' ::
        Digits.ofNat (f.position + f.more)
  "'utf-8' codec can't decode ".toList ++ place ++ ':' :: ' ' :: f.defect.message

/-- A character that has been begun. -/
structure Begun where
  /-- Its first byte. -/
  first : UInt8
  /-- The number of its bytes that have been read after the first one. -/
  more : Nat
  /-- The bits that have been read. -/
  code : Nat
  /-- The number of bytes to come after the next one. -/
  later : Nat
  /-- The least next byte. -/
  least : UInt8
  /-- The greatest next byte. -/
  greatest : UInt8
  deriving DecidableEq, Inhabited

/-- The start of a character of more than one byte.  The bounds of the second byte leave out what
has a shorter form, the halves of surrogate pairs and what lies beyond the last character. -/
def begin? (b : UInt8) : Option Begun :=
  let n := b.toNat
  if 0xC2 ≤ n ∧ n ≤ 0xDF then some ⟨b, 0, n - 0xC0, 0, 0x80, 0xBF⟩
  else if 0xE0 ≤ n ∧ n ≤ 0xEF then
    some ⟨b, 0, n - 0xE0, 1, if n = 0xE0 then 0xA0 else 0x80, if n = 0xED then 0x9F else 0xBF⟩
  else if 0xF0 ≤ n ∧ n ≤ 0xF4 then
    some ⟨b, 0, n - 0xF0, 2, if n = 0xF0 then 0x90 else 0x80, if n = 0xF4 then 0x8F else 0xBF⟩
  else none

/-- A fault in a character that has been begun after `position` bytes. -/
def Begun.fault (p : Begun) (defect : Defect) (position : Nat) : Fault :=
  ⟨defect, position, p.first, p.more⟩

/-- Read bytes from the start of a character, after `position` bytes, or inside one. -/
def decodeFrom (position : Nat) : Option Begun → List UInt8 → Except Fault Text
  | none, [] => .ok []
  | some p, [] => .error (p.fault .unexpectedEnd position)
  | none, b :: bs =>
    if b < 0x80 then (decodeFrom (position + 1) none bs).map (Char.ofNat b.toNat :: ·)
    else
      match begin? b with
      | some p => decodeFrom position (some p) bs
      | none => .error ⟨.invalidStart, position, b, 0⟩
  | some p, b :: bs =>
    if p.least ≤ b ∧ b ≤ p.greatest then
      let code := p.code * 64 + (b.toNat - 0x80)
      match p.later with
      | 0 => (decodeFrom (position + p.more + 2) none bs).map (Char.ofNat code :: ·)
      | later + 1 =>
        decodeFrom position (some ⟨p.first, p.more + 1, code, later, 0x80, 0xBF⟩) bs
    else .error (p.fault .invalidContinuation position)

/-- Read bytes as a text. -/
def decode (bytes : List UInt8) : Except Fault Text := decodeFrom 0 none bytes

end Statechart.Utf8
