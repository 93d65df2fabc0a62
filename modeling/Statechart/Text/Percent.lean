import Statechart.Text.Utf8

/-!
# Percent escapes

In an address a character may be written by the bytes of its UTF-8, each as `%` and two hexadecimal
digits.  `Percent.encode` writes all characters so that are not safe to stand as they are, and
`Percent.decode` reads what is in ASCII.
-/

namespace Statechart.Percent

open Text

/-- A byte as an escape. -/
def escape (b : UInt8) : Text := '%' :: (hex 2 b.toNat).map Char.toUpper

/-- A text with escapes for all characters that are not safe. -/
def encode (safe : Char → Bool) (s : Text) : Text :=
  s.flatMap fun c => if safe c then [c] else (Utf8.encodeChar c).flatMap escape

/-- The value of a hexadecimal digit in either case. -/
def digit? (c : Char) : Option Nat :=
  if '0' ≤ c ∧ c ≤ '9' then some (c.toNat - '0'.toNat)
  else if 'a' ≤ c ∧ c ≤ 'f' then some (c.toNat - 'a'.toNat + 10)
  else if 'A' ≤ c ∧ c ≤ 'F' then some (c.toNat - 'A'.toNat + 10)
  else none

/-- A text with its escaped ASCII characters as themselves. -/
def decode : Text → Text
  | '%' :: a :: b :: s =>
    match digit? a, digit? b with
    | some high, some low =>
      if high < 8 then Char.ofNat (16 * high + low) :: decode s else '%' :: decode (a :: b :: s)
    | _, _ => '%' :: decode (a :: b :: s)
  | c :: s => c :: decode s
  | [] => []
termination_by s => s.length

end Statechart.Percent
