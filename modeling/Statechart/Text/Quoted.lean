import Statechart.Text.Printable

/-!
# Quoted literals

How a text is shown inside a message: between quotes, with a backslash before what cannot stand
there as it is.  The quote is `'`, unless the text holds a `'` and no `"`.  Characters that are not
printable are written by their code, with two, four or eight hexadecimal digits, whichever is the
least that fits.  `Text.quotedBytes` is the same notation for bytes.
-/

namespace Statechart.Text

/-- The lower-case hexadecimal digit of a number below sixteen. -/
def hexDigit (n : Nat) : Char := Nat.digitChar (n % 16)

/-- A number in lower-case hexadecimal, with exactly `width` digits. -/
def hex : Nat → Nat → Text
  | 0, _ => []
  | width + 1, n => hex width (n / 16) ++ [hexDigit n]

/-- The quote that a literal of this text stands in. -/
def quoteFor (s : Text) : Char :=
  if '\'' ∈ s ∧ '"' ∉ s then '"' else '\''

/-- A character written by its code. -/
def escapeCode (c : Char) : Text :=
  let n := c.toNat
  if n < 0x100 then '\\' :: 'x' :: hex 2 n
  else if n < 0x10000 then '\\' :: 'u' :: hex 4 n
  else '\\' :: 'U' :: hex 8 n

/-- A character inside a literal whose quote is `quote`; `plain` says which characters may stand
as they are. -/
def escapeIn (plain : Char → Bool) (quote c : Char) : Text :=
  if c = quote ∨ c = '\\' then ['\\', c]
  else if c = '\n' then ['\\', 'n']
  else if c = '\r' then ['\\', 'r']
  else if c = '\t' then ['\\', 't']
  else if plain c then [c]
  else escapeCode c

/-- A literal of the text, with `plain` characters as they are. -/
def quotedWith (plain : Char → Bool) (s : Text) : Text :=
  let quote := quoteFor s
  quote :: s.flatMap (escapeIn plain quote) ++ [quote]

/-- The quoted literal of a text. -/
def quoted (s : Text) : Text := quotedWith isPrintable s

/-- The quoted literal of a text in ASCII alone. -/
def quotedAscii (s : Text) : Text :=
  quotedWith (fun c => 32 ≤ c.toNat && c.toNat < 127) s

/-- The literal of a sequence of bytes: `b` and a quoted literal in which bytes outside printable
ASCII are written by their code. -/
def quotedBytes (bytes : List UInt8) : Text :=
  'b' :: quotedAscii (bytes.map fun b => Char.ofNat b.toNat)

end Statechart.Text
