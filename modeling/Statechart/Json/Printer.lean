import Statechart.Json.Basic

/-!
# Writing JSON

A `Layout` says what stands between the tokens: the texts after an item and after a name, and how
far each level is indented if every item gets a line of its own.  Empty arrays and objects take no
inner space in any layout.  In a text only the quote, the backslash and the control characters
below U+0020 are escaped; everything else stands as it is.
-/

namespace Statechart

namespace Json

/-- What stands between the tokens of a written value. -/
structure Layout where
  /-- Between two items. -/
  comma : Text
  /-- Between a name and its value. -/
  colon : Text
  /-- The number of spaces per level, if each item stands on a line of its own. -/
  step : Option Nat
  deriving DecidableEq, Inhabited

namespace Layout

/-- On one line, with a space after each comma and colon. -/
def spaced : Layout := ⟨[',', ' '], [':', ' '], none⟩

/-- On one line, without spaces. -/
def tight : Layout := ⟨[','], [':'], none⟩

/-- On many lines, each level indented by `step` spaces. -/
def indented (step : Nat) : Layout := ⟨[','], [':', ' '], some step⟩

/-- The layout for an optional indent, where a negative one counts as none at all. -/
def ofIndent : Option Int → Layout
  | none => spaced
  | some n => indented n.toNat

/-- The break before an item or a closing bracket at the given depth. -/
def newline (l : Layout) (depth : Nat) : Text :=
  match l.step with
  | none => []
  | some n => '\n' :: List.replicate (n * depth) ' '

end Layout

/-- A character inside a written text. -/
def escapeChar (c : Char) : Text :=
  if c = '"' then ['\\', '"']
  else if c = '\\' then ['\\', '\\']
  else if c = '\n' then ['\\', 'n']
  else if c = '\r' then ['\\', 'r']
  else if c = '\t' then ['\\', 't']
  else if c = '\x08' then ['\\', 'b']
  else if c = '\x0c' then ['\\', 'f']
  else if c.toNat < 32 then '\\' :: 'u' :: Text.hex 4 c.toNat
  else [c]

/-- A text between quotes. -/
def writeText (s : Text) : Text := '"' :: (s.flatMap escapeChar ++ ['"'])

/-- A truth value. -/
def writeBool (b : Bool) : Text :=
  if b then ['t', 'r', 'u', 'e'] else ['f', 'a', 'l', 's', 'e']

/-- A floating-point number. -/
def writeDouble (x : Double) : Text := x.textWith ("Infinity".toList, "NaN".toList)

mutual

/-- A value whose brackets stand at the given depth. -/
def writeAt (l : Layout) (depth : Nat) : Json → Text
  | .null => ['n', 'u', 'l', 'l']
  | .bool b => writeBool b
  | .int i => Digits.ofInt i
  | .double x => writeDouble x
  | .text s => writeText s
  | .array [] => ['[', ']']
  | .array (item :: items) =>
    '[' :: (l.newline (depth + 1) ++ (writeAt l (depth + 1) item ++
      (writeItems l (depth + 1) items ++ (l.newline depth ++ [']']))))
  | .object [] => ['{', '}']
  | .object ((name, value) :: fields) =>
    '{' :: (l.newline (depth + 1) ++ (writeText name ++ (l.colon ++ (writeAt l (depth + 1) value ++
      (writeFields l (depth + 1) fields ++ (l.newline depth ++ ['}']))))))

/-- The items after the first one. -/
def writeItems (l : Layout) (depth : Nat) : List Json → Text
  | [] => []
  | item :: items =>
    l.comma ++ (l.newline depth ++ (writeAt l depth item ++ writeItems l depth items))

/-- The fields after the first one. -/
def writeFields (l : Layout) (depth : Nat) : List (Text × Json) → Text
  | [] => []
  | (name, value) :: fields =>
    l.comma ++ (l.newline depth ++ (writeText name ++ (l.colon ++ (writeAt l depth value ++
      writeFields l depth fields))))

end

/-- A value in the given layout. -/
def write (l : Layout) (j : Json) : Text := writeAt l 0 j

end Json

end Statechart
