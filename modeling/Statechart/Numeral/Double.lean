import Statechart.Numeral.AnyScript

/-!
# Binary floating-point numbers

A `Double` is a floating-point number of 64 bits, given by its sign, a mantissa below 2^53 and an
exponent, so that all arithmetic on it is exact arithmetic on integers.

`Double.ofRatio` and `Double.ofDecimal` round to the nearest double, to the even mantissa when two
are equally near.  `Double.shortest` finds the fewest decimal digits that are read back as the same
double, and `Double.text` writes them: positionally for magnitudes from 1e-4 up to, but not
including, 1e16, and with an exponent otherwise.  `Double.fixed` and `Double.scientific` write a
given number of decimals.
-/

namespace Statechart

/-- A binary floating-point number of 64 bits. -/
inductive Double where
  /-- Not a number. -/
  | nan
  /-- Beyond all finite numbers. -/
  | infinite (negative : Bool)
  /-- The number `mantissa * 2 ^ exponent`, or its opposite. -/
  | finite (negative : Bool) (mantissa : Nat) (exponent : Int)
  deriving DecidableEq, Inhabited

namespace Double

/-- The least exponent. -/
def minExponent : Int := -1074

/-- The greatest exponent of a finite number. -/
def maxExponent : Int := 971

/-- Zero, with a sign. -/
def zero (negative : Bool) : Double := .finite negative 0 minExponent

/-- The fraction `num / den * 2 ^ -e` as a pair of natural numbers. -/
def scaleDown (num den : Nat) (e : Int) : Nat × Nat :=
  if 0 ≤ e then (num, den * Nat.pow 2 e.toNat) else (num * Nat.pow 2 (-e).toNat, den)

/-- The double nearest to `num / den`, for a positive `den`. -/
def ofRatio (negative : Bool) (num den : Nat) : Double :=
  if num = 0 then zero negative
  else
    let low : Int := (num.log2 : Int) - den.log2 - 53
    let (n, d) := scaleDown num den low
    let e := max (if n < Nat.pow 2 53 * d then low else low + 1) minExponent
    let (n, d) := scaleDown num den e
    let m := Digits.divRound n d
    let (m, e) := if m = Nat.pow 2 53 then (Nat.pow 2 52, e + 1) else (m, e)
    if maxExponent < e then .infinite negative else .finite negative m e

/-- The double nearest to `digits * 10 ^ exponent`. -/
def ofDecimal (negative : Bool) (digits : Nat) (exponent : Int) : Double :=
  let magnitude : Int := (Digits.ofNat digits).length + exponent
  if digits = 0 ∨ magnitude < -330 then zero negative
  else if 330 < magnitude then .infinite negative
  else if 0 ≤ exponent then ofRatio negative (digits * Nat.pow 10 exponent.toNat) 1
  else ofRatio negative digits (Nat.pow 10 (-exponent).toNat)

/-- The double nearest to an integer. -/
def ofInt (i : Int) : Double := ofDecimal (i < 0) i.natAbs 0

/-- A magnitude `mantissa * 2 ^ exponent` as a fraction. -/
def ratio (mantissa : Nat) (exponent : Int) : Nat × Nat :=
  if 0 ≤ exponent then (mantissa * Nat.pow 2 exponent.toNat, 1)
  else (mantissa, Nat.pow 2 (-exponent).toNat)

/-- The exponent `p` with `10 ^ p ≤ num / den < 10 ^ (p + 1)`, for positive `num` and `den`. -/
def decimalExponent (num den : Nat) : Int :=
  if den ≤ num then (Digits.ofNat (num / den)).length - 1
  else
    let k := (Digits.ofNat (den / num)).length
    if num * Nat.pow 10 (k - 1) = den then 1 - (k : Int) else -(k : Int)

/-- The fraction `num / den * 10 ^ -p` as a pair of natural numbers. -/
def scaleDecimal (num den : Nat) (p : Int) : Nat × Nat :=
  if 0 ≤ p then (num, den * Nat.pow 10 p.toNat) else (num * Nat.pow 10 (-p).toNat, den)

/-- A number `digits * 10 ^ exponent`. -/
structure Decimal where
  /-- The digits as one number. -/
  digits : Nat
  /-- The power of ten. -/
  exponent : Int
  deriving DecidableEq, Inhabited

/-- Whether `c * 10 ^ p` is read back as `mantissa * 2 ^ exponent`: it lies between the middles
of the gaps to the neighbouring doubles, where the middles count for an even mantissa. -/
def readsBack (mantissa : Nat) (exponent : Int) (c : Nat) (p : Int) : Bool :=
  let lower := if mantissa = Nat.pow 2 52 ∧ minExponent < exponent then 4 * mantissa - 1
    else 4 * mantissa - 2
  let upper := 4 * mantissa + 2
  let (unit, unitDen) := ratio 1 (exponent - 2)
  let (ten, tenDen) := if 0 ≤ p then (Nat.pow 10 p.toNat, 1) else (1, Nat.pow 10 (-p).toNat)
  let x := c * ten * unitDen
  let lo := lower * unit * tenDen
  let hi := upper * unit * tenDen
  if mantissa % 2 = 0 then lo ≤ x && x ≤ hi else lo < x && x < hi

/-- The better of the two neighbours of the number on the grid of multiples of `10 ^ p`, if one of
them is read back. -/
def onGrid? (mantissa : Nat) (exponent p : Int) (num den : Nat) : Option Decimal :=
  let (n, d) := scaleDecimal num den p
  let below := n / d
  match readsBack mantissa exponent below p, readsBack mantissa exponent (below + 1) p with
  | true, true => some ⟨Digits.divRound n d, p⟩
  | true, false => some ⟨below, p⟩
  | false, true => some ⟨below + 1, p⟩
  | false, false => none

/-- The fewest decimal digits that are read back as the positive number
`mantissa * 2 ^ exponent`. -/
def shortest (mantissa : Nat) (exponent : Int) : Decimal :=
  let (num, den) := ratio mantissa exponent
  let top := decimalExponent num den
  let found := (List.range 17).findSome? fun (k : Nat) =>
    onGrid? mantissa exponent (top - k) num den
  found.getD ⟨0, 0⟩

/-- Digits without the zeros at their end. -/
def dropZeros (s : Text) : Text := (s.reverse.dropWhile (· = '0')).reverse

/-- An exponent with its sign and at least two digits. -/
def exponentText (e : Int) : Text :=
  (if e < 0 then '-' else '+') :: Digits.padded 2 e.natAbs

/-- Significant digits with a decimal point after the first one, and an exponent. -/
def withExponent (digits : Text) (e : Int) : Text :=
  match digits with
  | [] => []
  | [d] => d :: 'e' :: exponentText e
  | d :: rest => d :: '.' :: rest ++ 'e' :: exponentText e

/-- The shortest text of a positive number. -/
def magnitudeText (mantissa : Nat) (exponent : Int) : Text :=
  let best := shortest mantissa exponent
  let all := Digits.ofNat best.digits
  -- the decimal point stands `point` digits to the right of the first digit
  let point : Int := all.length + best.exponent
  let digits := dropZeros all
  if point < -3 ∨ 16 < point then withExponent digits (point - 1)
  else if point ≤ 0 then '0' :: '.' :: List.replicate (-point).toNat '0' ++ digits
  else
    let whole := digits.take point.toNat
    let fraction := digits.drop point.toNat
    whole ++ List.replicate (point.toNat - whole.length) '0' ++
      '.' :: (if fraction.isEmpty then ['0'] else fraction)

/-- The sign in front of a negative number. -/
def signText (negative : Bool) : Text := if negative then ['-'] else []

/-- A double in the fewest digits that are read back as the same double; `names` gives the words
for infinity and for what is not a number. -/
def textWith (names : Text × Text) : Double → Text
  | .nan => names.2
  | .infinite negative => signText negative ++ names.1
  | .finite negative 0 _ => signText negative ++ ['0', '.', '0']
  | .finite negative m e => signText negative ++ magnitudeText m e

/-- A double as it is shown in messages. -/
def text : Double → Text := textWith ("inf".toList, "nan".toList)

/-- The magnitude `mantissa * 2 ^ exponent` with `places` decimals. -/
def fixedMagnitude (mantissa : Nat) (exponent : Int) (places : Nat) : Text :=
  let (num, den) := ratio mantissa exponent
  let digits := Digits.padded (places + 1) (Digits.divRound (num * Nat.pow 10 places) den)
  let whole := digits.take (digits.length - places)
  if places = 0 then whole else whole ++ '.' :: digits.drop (digits.length - places)

/-- The `places + 1` significant digits of a positive magnitude, and the exponent of the first. -/
def significant (mantissa : Nat) (exponent : Int) (places : Nat) : Text × Int :=
  if mantissa = 0 then (List.replicate (places + 1) '0', 0)
  else
    let (num, den) := ratio mantissa exponent
    let top := decimalExponent num den
    let (n, d) := scaleDecimal num den (top - places)
    let digits := Digits.ofNat (Digits.divRound n d)
    if digits.length = places + 2 then (digits.take (places + 1), top + 1) else (digits, top)

/-- The magnitude with one digit before the point, `places` digits after it and an exponent. -/
def scientificMagnitude (mantissa : Nat) (exponent : Int) (places : Nat) : Text :=
  let (digits, e) := significant mantissa exponent places
  withExponent digits e

/-- The magnitude with `precision` significant digits, positionally if its exponent is at least
-4 and below the precision; zeros at the end of the decimals are left out unless `keepZeros`. -/
def generalMagnitude (mantissa : Nat) (exponent : Int) (precision : Nat) (keepZeros : Bool) :
    Text :=
  let precision := max precision 1
  let (digits, e) := significant mantissa exponent (precision - 1)
  let shorten (s : Text) : Text := if keepZeros then s else dropZeros s
  if -4 ≤ e ∧ e < precision then
    let (whole, fraction) :=
      if e < 0 then (['0'], List.replicate (-e - 1).toNat '0' ++ digits)
      else (digits.take (e.toNat + 1), digits.drop (e.toNat + 1))
    let fraction := shorten fraction
    if fraction.isEmpty ∧ ¬ keepZeros then whole else whole ++ '.' :: fraction
  else
    match digits with
    | [] => []
    | first :: fraction =>
      let fraction := shorten fraction
      let point := if fraction.isEmpty ∧ ¬ keepZeros then [] else '.' :: fraction
      first :: point ++ 'e' :: exponentText e

/-- The sign of a number, for those that have one. -/
def isNegative : Double → Bool
  | .nan => false
  | .infinite negative => negative
  | .finite negative _ _ => negative

/-- The whole part of a finite number, rounded toward zero. -/
def truncate? : Double → Option Int
  | .finite negative m e =>
    let (num, den) := ratio m e
    let whole : Int := ↑(num / den)
    some (if negative then -whole else whole)
  | _ => none

/-- ASCII letters in lower case. -/
def lowerAscii (s : Text) : Text := s.map Char.toLower

/-- The parts of a decimal numeral without a sign: digits, optional decimals, optional exponent. -/
def magnitudeOf? (s : Text) : Option (Nat × Int) :=
  let whole := s.takeWhile Digits.isAscii
  let rest := s.dropWhile Digits.isAscii
  let (fraction, rest) :=
    match rest with
    | '.' :: rest => (rest.takeWhile Digits.isAscii, rest.dropWhile Digits.isAscii)
    | rest => ([], rest)
  if whole.isEmpty && fraction.isEmpty then none
  else
    let mantissa := Digits.valueOfAscii (whole ++ fraction)
    let places : Int := fraction.length
    match rest with
    | [] => some (mantissa, -places)
    | c :: rest =>
      if c = 'e' ∨ c = 'E' then
        let (negative, digits) := Numeral.signed rest
        if digits.isEmpty || !digits.all Digits.isAscii then none
        else
          let e : Int := Digits.valueOfAscii digits
          some (mantissa, (if negative then -e else e) - places)
      else none

/-- The double that a numeral stands for: decimal notation in the digits of any script, or a word
for infinity or for what is not a number, with an optional sign and blanks around. -/
def read? (s : Text) : Option Double := do
  let (negative, s) := Numeral.signed (← Numeral.ungrouped? false (Numeral.asciiForm s))
  let word := lowerAscii s
  if word = "inf".toList ∨ word = "infinity".toList then some (.infinite negative)
  else if word = "nan".toList then some .nan
  else (magnitudeOf? s).map fun (digits, e) => ofDecimal negative digits e

end Double

end Statechart
