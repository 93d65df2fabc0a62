import Statechart.Numeral.Digits
import Statechart.Text.Blank

/-!
# Numbers in the digits of any script

A number may be written with the decimal digits of any script, with a sign in front, with single
underscores between the digits, and with blanks around the whole.  `Numeral.asciiForm` brings it
into ASCII and `Numeral.ungrouped?` takes the underscores out.

`Numeral.anyScript?` reads an integer of this kind.  It may have zeros in front, and it must not
have more than a fixed number of digits.
-/

namespace Statechart.Numeral

open Text

/-- A blank around a number: an ASCII blank, or any blank outside ASCII. -/
def isOuterBlank (c : Char) : Bool := isAsciiBlank c || (128 ≤ c.toNat && isBlank c)

/-- The ASCII digit of a decimal digit; other characters stay as they are. -/
def asciiDigit (c : Char) : Char :=
  match Digits.decimal? c with
  | some d => Char.ofNat ('0'.toNat + d)
  | none => c

/-- A text without the blanks around it, and with ASCII digits for those of other scripts. -/
def asciiForm (s : Text) : Text :=
  ((s.dropWhile isOuterBlank).reverse.dropWhile isOuterBlank).reverse.map asciiDigit

/-- A text without its underscores, provided that each stands between two digits.  `afterDigit`
says whether the text follows a digit. -/
def ungrouped? (afterDigit : Bool) : Text → Option Text
  | [] => some []
  | '_' :: s =>
    if afterDigit ∧ (s.head?.map Digits.isAscii).getD false then ungrouped? false s else none
  | c :: s => (ungrouped? (Digits.isAscii c) s).map (c :: ·)

/-- The sign at the start of a text, negative or not, and what follows it. -/
def signed (s : Text) : Bool × Text :=
  match s with
  | '-' :: s => (true, s)
  | '+' :: s => (false, s)
  | s => (false, s)

/-- An integer in the digits of any script. -/
def anyScript? (s : Text) : Option Int := do
  let (negative, digits) := signed (← ungrouped? false (asciiForm s))
  if digits.isEmpty || !digits.all Digits.isAscii || Digits.most < digits.length then none
  else
    let n : Int := Digits.valueOfAscii digits
    some (if negative then -n else n)

end Statechart.Numeral
