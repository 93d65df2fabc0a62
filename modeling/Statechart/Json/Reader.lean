import Statechart.Json.Basic
import Statechart.Text.Halves
import Statechart.Text.Percent

/-!
# Reading JSON

`Json.readWith` reads a whole text as one JSON value, or says what is wrong and where.  Its rules
say how deep brackets may stand inside one another, and which character an escaped half of a
surrogate pair is read as when it stands alone.  Besides the standard notation it knows the words
`NaN`, `Infinity` and `-Infinity`.  Blanks are the space, the tab, the line feed and the carriage
return.

The position of a fault counts the characters before it.  Inside the reader a place is given by
the number of characters from there to the end, which the text that is left shows.
-/

namespace Statechart

namespace Json

/-- What is wrong with a text that is no JSON value. -/
inductive Defect where
  /-- A value has to stand here. -/
  | value
  /-- A name in quotes has to stand here. -/
  | name
  /-- A colon has to stand here. -/
  | colon
  /-- A comma has to stand here. -/
  | comma
  /-- The value ends before the text does. -/
  | trailing
  /-- A text begins here and does not end. -/
  | unterminated
  /-- A control character has to be escaped inside a text. -/
  | control
  /-- There is no such escape. -/
  | escape
  /-- An escape by code needs four hexadecimal digits. -/
  | codeEscape
  /-- The integer has more digits than are read. -/
  | longInteger
  /-- Too many brackets are open. -/
  | deep
  deriving DecidableEq, Inhabited

/-- What a defect is called. -/
def Defect.message : Defect → Text
  | .value => "Expecting value".toList
  | .name => "Expecting property name enclosed in double quotes".toList
  | .colon => "Expecting ':' delimiter".toList
  | .comma => "Expecting ',' delimiter".toList
  | .trailing => "Extra data".toList
  | .unterminated => "Unterminated string starting at".toList
  | .control => "Invalid control character at".toList
  | .escape => "Invalid \\escape".toList
  | .codeEscape => "Invalid \\uXXXX escape".toList
  | .longInteger => "Integer too long".toList
  | .deep => "Too many open brackets".toList

/-- A defect and the number of characters between its place and the end of the text. -/
structure Stop where
  /-- What is wrong. -/
  defect : Defect
  /-- How many characters are left at the place. -/
  left : Nat
  deriving DecidableEq, Inhabited

/-- A defect and the number of characters before its place. -/
structure Fault where
  /-- What is wrong. -/
  defect : Defect
  /-- How many characters stand before the place. -/
  position : Nat
  deriving DecidableEq, Inhabited

/-- Either what has been read, with the text after it, or where reading stopped. -/
abbrev Reading (α : Type) := Except Stop (α × Text)

/-- A blank between tokens. -/
def isGap (c : Char) : Bool := c == ' ' || c == '\t' || c == '\n' || c == '\r'

/-- The text without the blanks at its start. -/
def skipGap (s : Text) : Text := s.dropWhile isGap

/-- The number that four hexadecimal digits stand for. -/
def code? (a b c d : Char) : Option Nat := do
  return (((← Percent.digit? a) * 16 + (← Percent.digit? b)) * 16 + (← Percent.digit? c)) * 16 +
    (← Percent.digit? d)

/-- The character of an escape with one letter. -/
def letterEscape? (c : Char) : Option Char :=
  if c = '"' ∨ c = '\\' ∨ c = '/' then some c
  else if c = 'b' then some '\x08'
  else if c = 'f' then some '\x0c'
  else if c = 'n' then some '\n'
  else if c = 'r' then some '\r'
  else if c = 't' then some '\t'
  else none

/-- Put a character in front of what has been read. -/
def addChar (c : Char) : Reading Text → Reading Text := Except.map fun r => (c :: r.1, r.2)

/-- What is read in ways that may differ. -/
structure Rules where
  /-- The character of a half of a surrogate pair that stands alone. -/
  standIn : Nat → Char
  /-- The greatest number of brackets that are open at a time. -/
  deepest : Nat

/-- The character that a code is read as. -/
def Rules.character (rules : Rules) (n : Nat) : Char :=
  if Halves.isHigh n || Halves.isLow n then rules.standIn n else Char.ofNat n

/-- The rest of a text after its opening quote; `start` characters were left at that quote.  An
escape that begins with a code needs a character after it. -/
def readTextBody (rules : Rules) (start : Nat) : Text → Reading Text
  | [] => .error ⟨.unterminated, start⟩
  | '"' :: s => .ok ([], s)
  | '\\' :: [] => .error ⟨.unterminated, start⟩
  | '\\' :: 'u' :: a :: b :: c :: d :: s =>
    if s.isEmpty then .error ⟨.codeEscape, 5⟩
    else
      match code? a b c d with
      | none => .error ⟨.codeEscape, s.length + 5⟩
      | some n =>
        let alone (_ : Unit) := addChar (rules.character n) (readTextBody rules start s)
        match s with
        | '\\' :: 'u' :: a :: b :: c :: d :: rest =>
          let pair? := (code? a b c d).bind (Halves.pair? n)
          match if rest.isEmpty then none else pair? with
          | some code => addChar (Char.ofNat code) (readTextBody rules start rest)
          | none => alone ()
        | _ => alone ()
  | '\\' :: 'u' :: s => .error ⟨.codeEscape, s.length + 1⟩
  | '\\' :: c :: s =>
    match letterEscape? c with
    | some e => addChar e (readTextBody rules start s)
    | none => .error ⟨.escape, s.length + 2⟩
  | c :: s =>
    if c.toNat < 32 then .error ⟨.control, s.length + 1⟩
    else addChar c (readTextBody rules start s)

/-- The digits at the start of a text, where only a lone zero may start with a zero. -/
def wholeDigits (s : Text) : Text :=
  match s with
  | '0' :: _ => ['0']
  | s => s.takeWhile Digits.isAscii

/-- The decimals at the start of a text: a point and at least one digit. -/
def decimals (s : Text) : Text :=
  match s with
  | '.' :: s => s.takeWhile Digits.isAscii
  | _ => []

/-- The exponent at the start of a text, with the number of characters it takes. -/
def exponent? (s : Text) : Option (Int × Nat) :=
  match s with
  | [] => none
  | c :: s =>
    if c = 'e' ∨ c = 'E' then
      let (negative, width, s) :=
        match s with
        | '-' :: s => (true, 2, s)
        | '+' :: s => (false, 2, s)
        | s => (false, 1, s)
      let digits := s.takeWhile Digits.isAscii
      if digits.isEmpty then none
      else
        let e : Int := Digits.valueOfAscii digits
        some (if negative then -e else e, width + digits.length)
    else none

/-- The number whose whole digits have been read, from what follows them; `start` characters were
left where the number starts. -/
def readDecimals (start : Nat) (negative : Bool) (whole rest : Text) : Reading Json :=
  let fraction := decimals rest
  let rest := if fraction.isEmpty then rest else rest.drop (fraction.length + 1)
  match exponent? rest with
  | some (e, width) =>
    let digits := Digits.valueOfAscii (whole ++ fraction)
    .ok (.double (.ofDecimal negative digits (e - fraction.length)), rest.drop width)
  | none =>
    if fraction.isEmpty then
      if Digits.most < whole.length then .error ⟨.longInteger, start⟩
      else
        let n : Int := Digits.valueOfAscii whole
        .ok (.int (if negative then -n else n), rest)
    else
      let digits := Digits.valueOfAscii (whole ++ fraction)
      .ok (.double (.ofDecimal negative digits (-fraction.length)), rest)

/-- Whether a number starts with a minus sign, and what follows that. -/
def signed (s : Text) : Bool × Text :=
  match s with
  | '-' :: s => (true, s)
  | s => (false, s)

/-- A number at the start of a text. -/
def readNumber (s : Text) : Reading Json :=
  let (negative, unsigned) := signed s
  let whole := wholeDigits unsigned
  if whole.isEmpty then .error ⟨.value, s.length⟩
  else readDecimals s.length negative whole (unsigned.drop whole.length)

/-- The words that are values. -/
def wordValues : List (Text × Json) :=
  [(['n', 'u', 'l', 'l'], .null),
    (['t', 'r', 'u', 'e'], .bool true),
    (['f', 'a', 'l', 's', 'e'], .bool false),
    (['N', 'a', 'N'], .double .nan),
    (['I', 'n', 'f', 'i', 'n', 'i', 't', 'y'], .double (.infinite false)),
    (['-', 'I', 'n', 'f', 'i', 'n', 'i', 't', 'y'], .double (.infinite true))]

/-- A value without brackets and quotes at the start of a text. -/
def readPlain (s : Text) : Reading Json :=
  match wordValues.findSome? fun (word, value) => (Text.past? word s).map (value, ·) with
  | some r => .ok r
  | none => readNumber s

mutual

/-- A value at the start of a text; `depth` brackets are open. -/
def readValue (rules : Rules) : Nat → Nat → Text → Reading Json
  | 0, _, s => .error ⟨.value, s.length⟩
  | fuel + 1, depth, s =>
    match s with
    | [] => .error ⟨.value, 0⟩
    | '"' :: s => (readTextBody rules (s.length + 1) s).map fun r => (.text r.1, r.2)
    | '[' :: s =>
      if rules.deepest ≤ depth then .error ⟨.deep, s.length + 1⟩
      else
        match skipGap s with
        | ']' :: s => .ok (.array [], s)
        | s => (readItems rules fuel (depth + 1) s).map fun r => (.array r.1, r.2)
    | '\x7b' :: s =>
      if rules.deepest ≤ depth then .error ⟨.deep, s.length + 1⟩
      else
        match skipGap s with
        | '\x7d' :: s => .ok (.object [], s)
        | s =>
          (readFields rules fuel (depth + 1) s).map fun r => (.object (mergeFields r.1), r.2)
    | s => readPlain s

/-- The items of an array up to its closing bracket. -/
def readItems (rules : Rules) : Nat → Nat → Text → Reading (List Json)
  | 0, _, s => .error ⟨.value, s.length⟩
  | fuel + 1, depth, s =>
    match readValue rules fuel depth s with
    | .error stop => .error stop
    | .ok (item, s) =>
      match skipGap s with
      | ']' :: s => .ok ([item], s)
      | ',' :: s =>
        (readItems rules fuel depth (skipGap s)).map fun r => (item :: r.1, r.2)
      | s => .error ⟨.comma, s.length⟩

/-- The fields of an object up to its closing bracket. -/
def readFields (rules : Rules) : Nat → Nat → Text → Reading (List (Text × Json))
  | 0, _, s => .error ⟨.name, s.length⟩
  | fuel + 1, depth, s =>
    match s with
    | '"' :: s =>
      match readTextBody rules (s.length + 1) s with
      | .error stop => .error stop
      | .ok (name, s) =>
        match skipGap s with
        | ':' :: s =>
          match readValue rules fuel depth (skipGap s) with
          | .error stop => .error stop
          | .ok (value, s) =>
            match skipGap s with
            | '\x7d' :: s => .ok ([(name, value)], s)
            | ',' :: s =>
              (readFields rules fuel depth (skipGap s)).map fun r => ((name, value) :: r.1, r.2)
            | s => .error ⟨.comma, s.length⟩
        | s => .error ⟨.colon, s.length⟩
    | s => .error ⟨.name, s.length⟩

end

/-- A text as one JSON value. -/
def readWith (rules : Rules) (s : Text) : Except Fault Json :=
  let place (stop : Stop) : Fault := ⟨stop.defect, s.length - stop.left⟩
  match readValue rules (2 * s.length + 2) 0 (skipGap s) with
  | .error stop => .error (place stop)
  | .ok (j, rest) =>
    match skipGap rest with
    | [] => .ok j
    | rest => .error (place ⟨.trailing, rest.length⟩)

/-- A text as one JSON value, where a half of a surrogate pair becomes a replacement character and
brackets may stand in one another without a bound. -/
def read (s : Text) : Except Fault Json := readWith ⟨fun _ => '\ufffd', s.length⟩ s

end Json

end Statechart
