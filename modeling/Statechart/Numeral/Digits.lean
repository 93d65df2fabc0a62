import Statechart.Text.Quoted

/-!
# Digits

Writing natural numbers and integers, padding them with zeros, and rounding quotients.  Reading
is here too: `Digits.value` is the number that a list of decimal digits stands for, and
`Digits.decimal?` gives the value of a decimal digit of any script.
-/

namespace Statechart.Digits

/-- A natural number in decimal notation. -/
def ofNat (n : Nat) : Text := Nat.toDigits 10 n

/-- An integer in decimal notation. -/
def ofInt (i : Int) : Text :=
  if i < 0 then '-' :: ofNat i.natAbs else ofNat i.natAbs

/-- Zeros in front of a text up to the given width. -/
def padZeros (width : Nat) (s : Text) : Text := List.replicate (width - s.length) '0' ++ s

/-- A natural number with at least `width` decimal digits. -/
def padded (width n : Nat) : Text := padZeros width (ofNat n)

/-- The number that decimal digits stand for. -/
def value (digits : List Nat) : Nat := digits.foldl (fun n d => 10 * n + d) 0

/-- The greatest number of digits of an integer that is read or written. -/
def most : Nat := 4300

/-- Whether an integer has too many digits to be written. -/
def isLong (i : Int) : Bool := most < (ofNat i.natAbs).length

/-- The zeros of the decimal digits of all scripts; nine more digits follow each of them. -/
def zeros : List Nat :=
  [
    0x30, 0x660, 0x6F0, 0x7C0, 0x966, 0x9E6, 0xA66, 0xAE6, 0xB66, 0xBE6, 0xC66, 0xCE6, 0xD66,
    0xDE6, 0xE50, 0xED0, 0xF20, 0x1040, 0x1090, 0x17E0, 0x1810, 0x1946, 0x19D0, 0x1A80, 0x1A90,
    0x1B50, 0x1BB0, 0x1C40, 0x1C50, 0xA620, 0xA8D0, 0xA900, 0xA9D0, 0xA9F0, 0xAA50, 0xABF0,
    0xFF10, 0x104A0, 0x10D30, 0x11066, 0x110F0, 0x11136, 0x111D0, 0x112F0, 0x11450, 0x114D0,
    0x11650, 0x116C0, 0x11730, 0x118E0, 0x11950, 0x11C50, 0x11D50, 0x11DA0, 0x16A60, 0x16AC0,
    0x16B50, 0x1D7CE, 0x1D7D8, 0x1D7E2, 0x1D7EC, 0x1D7F6, 0x1E140, 0x1E2F0, 0x1E950, 0x1FBF0]

/-- The value of a decimal digit of any script. -/
def decimal? (c : Char) : Option Nat :=
  let n := c.toNat
  (zeros.find? fun first => first ≤ n && n < first + 10).map (n - ·)

/-- Whether the character is one of the ten ASCII digits. -/
def isAscii (c : Char) : Bool := c.isDigit

/-- The number that a text of ASCII digits stands for. -/
def valueOfAscii (s : Text) : Nat := value (s.map fun c => c.toNat - '0'.toNat)

/-- The integer closest to `num / den`, and the even one of two that are equally close. -/
def divRound (num den : Nat) : Nat :=
  let quotient := num / den
  let rest := 2 * (num % den)
  if rest < den then quotient
  else if den < rest then quotient + 1
  else quotient + quotient % 2

end Statechart.Digits
