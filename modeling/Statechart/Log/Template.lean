import Statechart.Log.Value
import Statechart.Text.Halves

/-!
# Message templates

The message of a log record is a template in which directives stand for arguments.  A directive
starts with `%` and may give the name of its argument in parentheses, flags, a width, a precision
and a size letter, which means nothing; it ends with the letter that says how the argument is
written.  Directives are carried out from left to right, so the first one that cannot be carried
out decides the fault.
-/

namespace Statechart

namespace Template

/-- Why a template cannot be filled in. -/
inductive Fault where
  /-- The template ends inside a directive. -/
  | incomplete
  /-- The template ends inside the name of an argument. -/
  | incompleteName
  /-- There is no such directive. -/
  | unsupported (letter : Char) (position : Nat)
  /-- A number in a directive is too big. -/
  | tooBig (what : Text)
  /-- There is no argument left. -/
  | tooFew
  /-- There are arguments left. -/
  | tooMany
  /-- The directive names an argument, and the arguments have no names. -/
  | unnamed
  /-- The directive names an argument, and the arguments have numbers for names. -/
  | numbered (indices : Text)
  /-- There is no argument of this name. -/
  | unknownName (name : Text)
  /-- A width or precision is given by an argument that is not an integer. -/
  | starNotInteger
  /-- A width or precision is given by an integer that is out of range. -/
  | starTooLarge (type : Text)
  /-- The directive needs an integer. -/
  | notInteger (letter : Char) (type : Text)
  /-- The directive needs a number. -/
  | notNumber (letter : Char) (type : Text)
  /-- The directive needs a real number. -/
  | notReal (type : Text)
  /-- The directive needs a character. -/
  | notCharacter
  /-- There is no character with this code. -/
  | noSuchCharacter
  /-- Infinity is no integer. -/
  | infiniteInteger
  /-- What is not a number is no integer. -/
  | nanInteger
  /-- The integer is too large for a floating-point number. -/
  | tooLarge
  /-- The integer has too many digits to be written. -/
  | longInteger
  deriving DecidableEq, Inhabited

/-- The kinds of failure that filling in a template may end in. -/
inductive FaultKind where
  /-- The template or an argument has a wrong value. -/
  | value
  /-- The number or type of the arguments is wrong. -/
  | type
  /-- A named argument is missing. -/
  | key
  /-- A number is out of range. -/
  | overflow
  deriving DecidableEq, Inhabited

/-- The kind of a fault. -/
def Fault.kind : Fault → FaultKind
  | .incomplete | .incompleteName | .unsupported .. | .tooBig _ | .nanInteger | .longInteger =>
    .value
  | .tooFew | .tooMany | .unnamed | .numbered _ | .starNotInteger | .notInteger ..
  | .notNumber .. | .notReal _ | .notCharacter => .type
  | .unknownName _ => .key
  | .starTooLarge _ | .noSuchCharacter | .infiniteInteger | .tooLarge => .overflow

/-- The message of a fault. -/
def Fault.message : Fault → Text
  | .incomplete => "incomplete format".toList
  | .incompleteName => "incomplete format key".toList
  | .unsupported letter position =>
    let shown := if 31 ≤ letter.toNat ∧ letter.toNat ≤ 126 then letter else '?'
    "unsupported format character '".toList ++ shown :: "' (0x".toList ++
      Nat.toDigits 16 letter.toNat ++ ") at index ".toList ++ Digits.ofNat position
  | .tooBig what => what ++ " too big".toList
  | .tooFew => "not enough arguments for format string".toList
  | .tooMany => "not all arguments converted during string formatting".toList
  | .unnamed => "format requires a mapping".toList
  | .numbered indices => indices ++ " indices must be integers or slices, not str".toList
  | .unknownName name => Text.quoted name
  | .starNotInteger => "* wants int".toList
  | .starTooLarge type => "Python int too large to convert to C ".toList ++ type
  | .notInteger letter type =>
    '%' :: letter :: " format: an integer is required, not ".toList ++ type
  | .notNumber letter type =>
    '%' :: letter :: " format: a real number is required, not ".toList ++ type
  | .notReal type => "must be real number, not ".toList ++ type
  | .notCharacter => "%c requires int or char".toList
  | .noSuchCharacter => "%c arg not in range(0x110000)".toList
  | .infiniteInteger => "cannot convert float infinity to integer".toList
  | .nanInteger => "cannot convert float NaN to integer".toList
  | .tooLarge => "int too large to convert to float".toList
  | .longInteger =>
    "Exceeds the limit (".toList ++ Digits.ofNat Digits.most ++
      (" digits) for integer string conversion; use sys.set_int_max_str_digits() to increase " ++
        "the limit").toList

/-- The arguments of a message. -/
inductive Arguments where
  /-- Any number of arguments. -/
  | several (values : List Value)
  /-- A single value, whose fields may be named if it is a table. -/
  | single (value : Value)
  deriving Inhabited

/-- The flags of a directive. -/
structure Flags where
  /-- Fill up on the right. -/
  left : Bool := false
  /-- Show a plus sign. -/
  plus : Bool := false
  /-- Show a space in the place of a plus sign. -/
  space : Bool := false
  /-- Show the base of the number, or its decimal point. -/
  alternate : Bool := false
  /-- Fill up with zeros. -/
  zeros : Bool := false
  deriving DecidableEq, Inhabited

/-- The flags at the start of a text. -/
def readFlags (flags : Flags) : Text → Flags × Text
  | '-' :: s => readFlags { flags with left := true } s
  | '+' :: s => readFlags { flags with plus := true } s
  | ' ' :: s => readFlags { flags with space := true } s
  | '#' :: s => readFlags { flags with alternate := true } s
  | '0' :: s => readFlags { flags with zeros := true } s
  | s => (flags, s)

/-- The name up to the parenthesis that closes the one before the text; `depth` parentheses are
open inside it. -/
def readName : Nat → Text → Option (Text × Text)
  | _, [] => none
  | depth, c :: s =>
    if c = ')' ∧ depth = 0 then some ([], s)
    else
      let depth := if c = '(' then depth + 1 else if c = ')' then depth - 1 else depth
      (readName depth s).map fun (name, s) => (c :: name, s)

/-- The arguments that are still to be used. -/
structure Supply where
  /-- The arguments, the next one first. -/
  values : List Value
  /-- The value that holds all arguments, in which named ones are looked up.  If there is one,
  arguments may be left over. -/
  holder : Option Value

/-- The supply that the arguments make up. -/
def Supply.ofArguments : Arguments → Supply
  | .several values => ⟨values, none⟩
  | .single value =>
    match value with
    | .table _ | .list _ | .bytes _ => ⟨[value], some value⟩
    | value => ⟨[value], none⟩

/-- The next argument. -/
def Supply.next (supply : Supply) : Except Fault (Value × Supply) :=
  match supply.values with
  | [] => .error .tooFew
  | value :: values => .ok (value, { supply with values })

/-- The argument of a name. -/
def Supply.find (supply : Supply) (name : Text) : Except Fault Value :=
  match supply.holder with
  | some (.table fields) =>
    match Catalog.Entries.get? name fields with
    | some value => .ok value
    | none => .error (.unknownName name)
  | some (.bytes _) => .error (.numbered "byte".toList)
  | some value => .error (.numbered value.typeName)
  | none => .error .unnamed

/-- The argument of the name at the start of a text becomes the only one. -/
def Supply.named (supply : Supply) (s : Text) : Except Fault (Supply × Text) :=
  match supply.holder, readName 0 s with
  | none, _ => .error .unnamed
  | some _, none => .error .incompleteName
  | some _, some (name, s) =>
    (supply.find name).map fun value => ({ supply with values := [value] }, s)

/-- The range of a number in a directive. -/
structure Range where
  /-- What the number is. -/
  what : Text
  /-- What its type is called. -/
  type : Text
  /-- The least number above all that are in range. -/
  bound : Nat
  deriving DecidableEq, Inhabited

/-- The range of widths. -/
def widths : Range := ⟨"width".toList, "ssize_t".toList, Nat.pow 2 63⟩

/-- The range of precisions. -/
def precisions : Range := ⟨"precision".toList, "int".toList, Nat.pow 2 31⟩

/-- The number at the start of a text, where a star stands for the next argument.  Only an
argument can be negative. -/
def readAmount (range : Range) (supply : Supply) (s : Text) :
    Except Fault (Option Int × Supply × Text) :=
  let given (i : Int) (supply : Supply) (s : Text) : Except Fault (Option Int × Supply × Text) :=
    if i < -range.bound ∨ range.bound ≤ i then .error (.starTooLarge range.type)
    else .ok (some i, supply, s)
  match s with
  | '*' :: s => do
    match ← supply.next with
    | (.int i, supply) => given i supply s
    | (.bool b, supply) => given (if b then 1 else 0) supply s
    | _ => .error .starNotInteger
  | s =>
    let digits := s.takeWhile Digits.isAscii
    let n := Digits.valueOfAscii digits
    if digits.isEmpty then .ok (none, supply, s)
    else if range.bound ≤ n then .error (.tooBig range.what)
    else .ok (some n, supply, s.drop digits.length)

/-- A directive: how an argument is to be written. -/
structure Directive where
  /-- The flags. -/
  flags : Flags
  /-- The least width. -/
  width : Nat
  /-- The precision. -/
  precision : Option Nat
  /-- The letter. -/
  letter : Char
  deriving DecidableEq, Inhabited

/-- The text after a size letter, if one stands here. -/
def skipSize : Text → Text
  | [] => []
  | c :: s => if c = 'h' ∨ c = 'l' ∨ c = 'L' then s else c :: s

/-- The directive at the start of a text that follows a percent sign.  What it takes out of the
supply is taken while it is read, so the first fault counts. -/
def readDirective (supply : Supply) (s : Text) : Except Fault (Directive × Supply × Text) := do
  let (supply, s) ←
    match s with
    | '(' :: s => supply.named s
    | s => pure (supply, s)
  let (flags, s) := readFlags {} s
  let (width, supply, s) ← readAmount widths supply s
  let width := width.getD 0
  let flags := if width < 0 then { flags with left := true } else flags
  let (precision, supply, s) ←
    match s with
    | '.' :: s => do
      let (precision, supply, s) ← readAmount precisions supply s
      pure (some (precision.getD 0).toNat, supply, s)
    | s => pure (none, supply, s)
  match skipSize s with
  | [] => throw .incomplete
  | letter :: s => return ({ flags, width := width.natAbs, precision, letter }, supply, s)

/-- A number as it is about to be written: its sign, the mark of its base and its digits. -/
structure Figure where
  /-- Whether the number is negative. -/
  negative : Bool
  /-- The mark of the base. -/
  base : Text
  /-- The digits. -/
  digits : Text
  deriving DecidableEq, Inhabited

/-- A text filled up with spaces. -/
def fill (left : Bool) (width : Nat) (s : Text) : Text :=
  let spaces := List.replicate (width - s.length) ' '
  if left then s ++ spaces else spaces ++ s

/-- A number filled up with spaces or with zeros between its base and its digits. -/
def Figure.filled (flags : Flags) (width : Nat) (f : Figure) : Text :=
  let sign := if f.negative then ['-'] else if flags.plus then ['+']
    else if flags.space then [' '] else []
  let lead := sign ++ f.base
  let digits := if flags.zeros ∧ ¬ flags.left then
      Digits.padZeros (width - lead.length) f.digits
    else f.digits
  fill flags.left width (lead ++ digits)

/-- A value whose integers can all be written. -/
def writable (value : Value) : Except Fault Value :=
  if value.hasLongInteger then .error .longInteger else .ok value

/-- The integer that a value counts as, for a directive that takes any number. -/
def integerOf (letter : Char) : Value → Except Fault Int
  | .int i => .ok i
  | .bool b => .ok (if b then 1 else 0)
  | .double .nan => .error .nanInteger
  | .double (.infinite _) => .error .infiniteInteger
  | .double x => .ok (x.truncate?.getD 0)
  | v => .error (.notNumber letter v.typeName)

/-- The integer that a value counts as, for a directive that takes integers only. -/
def exactIntegerOf (letter : Char) : Value → Except Fault Int
  | .int i => .ok i
  | .bool b => .ok (if b then 1 else 0)
  | v => .error (.notInteger letter v.typeName)

/-- The floating-point number that a value counts as. -/
def doubleOf : Value → Except Fault Double
  | .double x => .ok x
  | .int i =>
    match Double.ofInt i with
    | .infinite _ => .error .tooLarge
    | x => .ok x
  | .bool b => .ok (.ofInt (if b then 1 else 0))
  | v => .error (.notReal v.typeName)

/-- ASCII letters in upper case. -/
def capitals (s : Text) : Text := s.map Char.toUpper

/-- An integer in the base of the letter. -/
def integerFigure (flags : Flags) (precision : Nat) (letter : Char) (i : Int) : Figure :=
  let digits (base : Nat) : Text := Digits.padZeros precision (Nat.toDigits base i.natAbs)
  let mark (c : Char) : Text := if flags.alternate then ['0', c] else []
  if letter = 'x' then ⟨i < 0, mark 'x', digits 16⟩
  else if letter = 'X' then ⟨i < 0, mark 'X', capitals (digits 16)⟩
  else if letter = 'o' then ⟨i < 0, mark 'o', digits 8⟩
  else ⟨i < 0, [], digits 10⟩

/-- A decimal point for digits that have none. -/
def withPoint (digits : Text) : Text :=
  if '.' ∈ digits then digits
  else
    let whole := digits.takeWhile Digits.isAscii
    whole ++ '.' :: digits.drop whole.length

/-- A floating-point number in the notation of the letter. -/
def doubleFigure (flags : Flags) (precision : Nat) (letter : Char) (x : Double) : Figure :=
  let digits :=
    match x with
    | .nan => "nan".toList
    | .infinite _ => "inf".toList
    | .finite _ m e =>
      let digits :=
        if letter.toLower = 'f' then Double.fixedMagnitude m e precision
        else if letter.toLower = 'e' then Double.scientificMagnitude m e precision
        else Double.generalMagnitude m e precision flags.alternate
      if flags.alternate then withPoint digits else digits
  ⟨x.isNegative, [], if letter.isUpper then capitals digits else digits⟩

/-- A text in ASCII alone. -/
def asciiOnly (s : Text) : Text :=
  s.flatMap fun c => if c.toNat < 128 then [c] else Text.escapeCode c

/-- An argument as a directive writes it; `position` is where the letter of the directive stands in
the template, and `halves` has the stand-ins for codes that are halves of surrogate pairs. -/
def Directive.write (halves : Halves.Block) (d : Directive) (position : Nat) (value : Value) :
    Except Fault Text := do
  let text (s : Text) : Text :=
    fill d.flags.left d.width (match d.precision with | some p => s.take p | none => s)
  if d.letter = 's' then return text (← writable value).display
  else if d.letter = 'r' then return text (← writable value).literal
  else if d.letter = 'a' then return text (asciiOnly (← writable value).literal)
  else if d.letter = 'd' ∨ d.letter = 'i' ∨ d.letter = 'u' then
    let i ← integerOf d.letter value
    if Digits.isLong i then throw .longInteger
    return (integerFigure d.flags (d.precision.getD 0) d.letter i).filled d.flags d.width
  else if d.letter = 'x' ∨ d.letter = 'X' ∨ d.letter = 'o' then
    let i ← exactIntegerOf d.letter value
    return (integerFigure d.flags (d.precision.getD 0) d.letter i).filled d.flags d.width
  else if d.letter.toLower = 'e' ∨ d.letter.toLower = 'f' ∨ d.letter.toLower = 'g' then
    let x ← doubleOf value
    return (doubleFigure d.flags (d.precision.getD 6) d.letter x).filled d.flags d.width
  else if d.letter = 'c' then
    match value with
    | .text [c] => return fill d.flags.left d.width [c]
    | .int i =>
      if 0 ≤ i ∧ i < 0x110000 then
        return fill d.flags.left d.width [halves.character i.toNat]
      else throw .noSuchCharacter
    | .bool b => return fill d.flags.left d.width [if b then '\x01' else '\x00']
    | _ => throw .notCharacter
  else throw (.unsupported d.letter position)

/-- Fill in what is left of a template of `length` characters.  `fuel` bounds the number of its
characters.  Two percent signs stand for one. -/
def fillRest (halves : Halves.Block) (length : Nat) :
    Nat → Text → Supply → Except Fault Text
  | 0, _, _ => .ok []
  | _, [], supply =>
    if supply.values.isEmpty || supply.holder.isSome then .ok [] else .error .tooMany
  | fuel + 1, '%' :: '%' :: s, supply => do return '%' :: (← fillRest halves length fuel s supply)
  | fuel + 1, '%' :: s, supply => do
    let (directive, supply, s) ← readDirective supply s
    let (value, supply) ← supply.next
    let written ← directive.write halves (length - s.length - 1) value
    return written ++ (← fillRest halves length fuel s supply)
  | fuel + 1, c :: s, supply => do return c :: (← fillRest halves length fuel s supply)

end Template

/-- Fill in a template with arguments. -/
def Template.fillIn (halves : Halves.Block) (template : Text) (arguments : Template.Arguments) :
    Except Template.Fault Text :=
  fillRest halves template.length (template.length + 1) template (.ofArguments arguments)

end Statechart
