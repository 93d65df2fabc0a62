import Statechart.Text.Basic

/-!
# Punycode

A name of any script can be written in small ASCII letters, digits and hyphens.
`Punycode.encode` writes the ASCII characters of the name first.  What follows says, for each other
character in increasing order, how many steps there are to it from the one before; a step goes on by
one place in the name and, at its end, to the next code.  The numbers of steps are written in digits
of base 36, the least significant one first, and thresholds that adapt to the numbers tell which
digit is the last one.
-/

namespace Statechart.Punycode

/-- A digit of base 36. -/
def digit (n : Nat) : Char :=
  if n < 26 then Char.ofNat ('a'.toNat + n) else Char.ofNat ('0'.toNat + (n - 26))

/-- The threshold of the digit at `place`, which is 36 for the first digit and grows by 36. -/
def threshold (place bias : Nat) : Nat := max 1 (min 26 (place - bias))

/-- A number in digits up to the first one below its threshold.  `fuel` bounds the number of
digits. -/
def digitsOf (bias : Nat) : Nat → Nat → Nat → Text
  | 0, _, _ => []
  | fuel + 1, place, n =>
    let t := threshold place bias
    if n < t then [digit n]
    else digit (t + (n - t) % (36 - t)) :: digitsOf bias fuel (place + 36) ((n - t) / (36 - t))

/-- The bias for a number that is so great; `place` grows by 36 with each division by 35. -/
def biasOf : Nat → Nat → Nat → Nat
  | 0, place, _ => place
  | fuel + 1, place, n =>
    if 455 < n then biasOf fuel (place + 36) (n / 35) else place + 36 * n / (n + 38)

/-- How far a name has been written. -/
structure State where
  /-- The number of steps since the last character. -/
  steps : Nat := 0
  /-- The bias of the thresholds. -/
  bias : Nat := 72
  /-- The number of characters that have been written. -/
  count : Nat
  /-- Whether none of them is outside ASCII. -/
  isFirst : Bool := true
  /-- The digits. -/
  digits : Text := []
  deriving DecidableEq, Inhabited

/-- Write the last character that has been reached. -/
def State.emit (state : State) : State :=
  let scaled := state.steps / (if state.isFirst then 700 else 2)
  let scaled := scaled + scaled / (state.count + 1)
  { steps := 0, bias := biasOf scaled 0 scaled, count := state.count + 1, isFirst := false
    digits := state.digits ++ digitsOf state.bias (state.steps + 1) 36 state.steps }

/-- Go once through a name for the characters with the code `code`, where the last time was for
those with the code before `next`. -/
def State.pass (s : Text) (next code : Nat) (state : State) : State :=
  let start := { state with steps := state.steps + (code - next) * (state.count + 1) }
  let last := s.foldl
    (fun state c =>
      if c.toNat < code then { state with steps := state.steps + 1 }
      else if c.toNat = code then state.emit
      else state)
    start
  { last with steps := last.steps + 1 }

/-- A name in small ASCII letters, digits and hyphens, as far as its own ASCII characters are. -/
def encode (s : Text) : Text :=
  let ascii := s.filter fun c => c.toNat < 128
  let codes := ((s.map Char.toNat).filter (128 ≤ ·)).mergeSort.eraseDups
  let (state, _) := codes.foldl
    (fun (state, next) code => (State.pass s next code state, code + 1))
    (({ count := ascii.length } : State), 128)
  ascii ++ (if ascii.isEmpty then [] else ['-']) ++ state.digits

end Statechart.Punycode
