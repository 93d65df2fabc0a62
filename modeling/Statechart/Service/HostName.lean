import Statechart.Numeral.AnyScript
import Statechart.Text.Percent
import Statechart.Text.Punycode

/-!
# Names of hosts

A host is known by its number, in four or in sixteen bytes, or by a name of letters, digits and a
few other characters.  A number of sixteen bytes stands in square brackets.
`HostName.isHeader` says whether a text is a host, perhaps with the number of a port, and
`HostName.ascii?` writes a name of any script in ASCII, label by label.
-/

namespace Statechart.Service.HostName

open Text

/-- One of the four bytes of a number: in decimal notation, without a zero in front. -/
def isByte (s : Text) : Bool :=
  !s.isEmpty && s.length ≤ 3 && s.all Digits.isAscii && (s = ['0'] || s.head? ≠ some '0') &&
    Digits.valueOfAscii s ≤ 255

/-- Whether a text is a number of four bytes, with points between them. -/
def isFourBytes (s : Text) : Bool :=
  let parts := pieces '.' s
  parts.length = 4 && parts.all isByte

/-- A step in telling whether a text consists of four rows of digits with a character between each
two.  A pair says which row may have been reached and whether it has a digit yet. -/
def rowsStep (reached : List (Nat × Bool)) (c : Char) : List (Nat × Bool) :=
  [(0, true), (1, false), (1, true), (2, false), (2, true), (3, false), (3, true)].filter
    fun (row, full) =>
      if full then c.isDigit && (reached.contains (row, false) || reached.contains (row, true))
      else reached.contains (row - 1, true)

/-- Whether a text looks like a number of four bytes: four rows of digits with a character between
each two. -/
def isFourRows (s : Text) : Bool := (s.foldl rowsStep [(0, false)]).contains (3, true)

/-- A group of four hexadecimal digits at most. -/
def isGroup (s : Text) : Bool :=
  !s.isEmpty && s.length ≤ 4 && s.all fun c => (Percent.digit? c).isSome

/-- Whether a number of sixteen bytes may consist of these groups, of which empty ones stand side by
side at one place at most, for all groups of zero that are left out there. -/
def areGroups (groups : List Text) : Bool :=
  let inner := groups.tail.dropLast
  let before := groups.take (1 + inner.idxOf [])
  let after := groups.drop (2 + inner.idxOf [])
  if inner.contains [] then
    let before := if before = [[]] then [] else before
    let after := if after = [[]] then [] else after
    before.all isGroup && after.all isGroup && before.length + after.length < 8
  else groups.length = 8 && groups.all isGroup

/-- Whether a text is a number of sixteen bytes: groups with colons between them, the last two of
which may be written as four bytes, and perhaps the zone that the number belongs to. -/
def isSixteenBytes (s : Text) : Bool :=
  let (number, zoned) :=
    match cut? '%' s with
    | none => (s, true)
    | some (number, zone) => (number, !zone.isEmpty && zone.all fun c => c ≠ '%' && c ≠ '/')
  let parts := pieces ':' number
  let groups? :=
    match parts.getLast? with
    | some last =>
      if !last.contains '.' then some parts
      else if isFourBytes last then some (parts.dropLast ++ [['0'], ['0']])
      else none
    | none => none
  zoned && parts.length ≥ 3 && (groups?.map areGroups).getD false

/-- A character of a name that needs no escape anywhere. -/
def isUnreserved (c : Char) : Bool := c.isAlphanum || "-._~".toList.contains c

/-- A mark that may stand in a name. -/
def isMark (c : Char) : Bool := "!$&'()*+,;=".toList.contains c

/-- Whether a text is a name, in which escapes may stand. -/
def isName : Text → Bool
  | [] => true
  | '%' :: a :: b :: s => (Percent.digit? a).isSome && (Percent.digit? b).isSome && isName s
  | c :: s => (isUnreserved c || isMark c) && isName s

/-- Whether what stands in square brackets is a host: a number of sixteen bytes, or a number of a
kind to come, after a `v` and the number of the kind. -/
def isBracketed (s : Text) : Bool :=
  match s with
  | 'v' :: rest =>
    match cut? '.' rest with
    | some (kind, number) =>
      !kind.isEmpty && kind.all (fun c => (Percent.digit? c).isSome) && !number.isEmpty &&
        number.all fun c => isUnreserved c || isMark c || c == ':'
    | none => false
  | s => isSixteenBytes s

/-- Whether a text is nothing, or a colon and the number of a port. -/
def isPort (s : Text) : Bool :=
  match s with
  | [] => true
  | ':' :: digits =>
    !digits.isEmpty && digits.all Digits.isAscii && Digits.valueOfAscii digits ≤ 65535
  | _ => false

/-- Whether a text is a host, perhaps with the number of a port. -/
def isHeader (s : Text) : Bool :=
  match s with
  | '[' :: rest =>
    match cut? ']' rest with
    | some (number, port) => isBracketed number && isPort port
    | none => false
  | s =>
    let name := s.takeWhile (· ≠ ':')
    !name.isEmpty && isName name && isPort (s.drop name.length)

/-! ### Names of any script -/

/-- The greatest length of a label. -/
def longestLabel : Nat := 63

/-- A character that parts two labels. -/
def isLabelEnd (c : Char) : Bool := c == '.' || c == '\u3002' || c == '\uff0e' || c == '\uff61'

/-- Whether a label may be part of a name: it is not empty, and of ASCII it holds letters, digits
and hyphens, with no hyphen at its ends. -/
def isLabel (s : Text) : Bool :=
  !s.isEmpty && s.head? ≠ some '-' && s.getLast? ≠ some '-' &&
    s.all fun c => 128 ≤ c.toNat || c.isAlphanum || c == '-'

/-- A label in ASCII. -/
def asciiLabel? (s : Text) : Option Text :=
  let written := if s.all fun c => c.toNat < 128 then s else "xn--".toList ++ Punycode.encode s
  if isLabel s && written.length ≤ longestLabel then some written else none

/-- A name in ASCII.  After its last label there may be another point. -/
def ascii? (s : Text) : Option Text := do
  let labels := pieces '.' (s.map fun c => if isLabelEnd c then '.' else c)
  let rooted := labels.getLast? = some []
  let written ← (if rooted then labels.dropLast else labels).mapM asciiLabel?
  if written.isEmpty then none
  else some (List.intercalate ['.'] written ++ (if rooted then ['.'] else []))

end Statechart.Service.HostName
