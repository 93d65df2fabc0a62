import Statechart.Numeral.Digits
import Statechart.Text.Blank

/-!
# Integers as people write them

A setting may write an integer with blanks around it, with a plus sign, with zeros in front, with
single underscores between its digits and with a fraction of nothing but zeros.
`Numeral.lenient` reads all of these by first bringing the text into the plain form that
`Numeral.plain` reads: an optional minus sign and digits without a zero in front.
-/

namespace Statechart.Numeral

open Text

/-- Why a text is not read as an integer. -/
inductive Defect where
  /-- It is none. -/
  | malformed
  /-- It has too many digits. -/
  | long
  deriving DecidableEq, Inhabited

/-- The number that digits stand for which do not begin with a zero, unless they are just that. -/
def plainDigits (s : Text) : Except Defect Nat :=
  match s.takeWhile Digits.isAscii with
  | [] => .error .malformed
  | '0' :: _ :: _ => .error .malformed
  | digits =>
    if Digits.most < digits.length then .error .long
    else if digits.length < s.length then .error .malformed
    else .ok (Digits.valueOfAscii digits)

/-- An integer in plain notation. -/
def plain (s : Text) : Except Defect Int :=
  match s with
  | '-' :: digits => (plainDigits digits).map fun n => -(n : Int)
  | digits => (plainDigits digits).map fun n => (n : Int)

/-- A blank around a number: the information separators U+001C to U+001F do not count. -/
def isNumberBlank (c : Char) : Bool := isBlank c && !(28 ≤ c.toNat && c.toNat ≤ 31)

/-- A text without the blanks around it. -/
def trimNumber (s : Text) : Text :=
  ((s.dropWhile isNumberBlank).reverse.dropWhile isNumberBlank).reverse

/-- A text without its plus sign, which no minus sign may follow. -/
def dropPlus? (s : Text) : Option Text :=
  match s with
  | '+' :: '-' :: _ => none
  | '+' :: s => some s
  | s => some s

/-- Whether the digits of a number, or a sign in front of them, may begin with this character once
the zeros are gone. -/
def leads (c : Char) : Bool := c == '-' || Digits.isAscii c

/-- What is left after zeros and underscores: the text from the first other digit or a minus sign
on, or a last zero if a point or nothing at all comes next.  `last` is the character before. -/
def dropZeros? (last : Char) : Text → Option Text
  | [] => some [last]
  | c :: s =>
    if c = '0' ∨ c = '_' then dropZeros? c s
    else if c = '.' then some (last :: c :: s)
    else if leads c then some (c :: s)
    else none

/-- A text without the zeros in front of its digits. -/
def dropLeadingZeros? (s : Text) : Option Text :=
  match s with
  | [] => none
  | '0' :: s => dropZeros? '0' s
  | c :: s => if leads c then some (c :: s) else none

/-- A text without its fraction, if that is a row of zeros. -/
def dropZeroFraction (s : Text) : Text :=
  match cut? '.' s with
  | some (whole, zeros) => if zeros ≠ [] ∧ zeros.all (· = '0') then whole else s
  | none => s

/-- A text without its underscores, provided that each stands alone between two characters. -/
def dropUnderscores (s : Text) : Text :=
  if s.head? = some '_' ∨ s.getLast? = some '_' ∨ occurs ['_', '_'] s then s
  else s.filter (· ≠ '_')

/-- A text in plain form, if only signs, zeros and underscores keep it from that.  A minus sign
stays in front of what is left of the rest. -/
def plainForm? (s : Text) : Option Text := do
  let s := dropZeroFraction (← dropPlus? (trimNumber s))
  let s ←
    match s with
    | '-' :: s => (dropLeadingZeros? s).map ('-' :: ·)
    | s => dropLeadingZeros? s
  return dropUnderscores s

/-- An integer in any of the accepted notations. -/
def lenient (s : Text) : Except Defect Int :=
  match plainForm? s with
  | none => .error .malformed
  | some s => plain s

end Statechart.Numeral
