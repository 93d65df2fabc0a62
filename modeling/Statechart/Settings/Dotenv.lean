import Statechart.Text.Blank
import Statechart.Catalog

/-!
# Dotenv files

A dotenv file binds names to values, one to a line: `NAME=value`, perhaps after the word `export`.
A value in quotes may go on over several lines and knows escapes; one without quotes ends with the
line or where a blank and `#` begin a comment.  A name without `=` has no value.  `Dotenv.read`
gives the lines as they are written; a line that cannot be read is remembered by its number.

`Dotenv.values` puts in what `${NAME}` and `${NAME:-default}` stand for: a name that is bound
further up, or a name of the environment.
-/

namespace Statechart.Dotenv

open Text

/-- A blank that does not end the line. -/
def isInlineBlank (c : Char) : Bool := isBlank c && c ≠ '\n' && c ≠ '\r'

/-- The text without the blanks at its start, as far as the line goes. -/
def skipInline (s : Text) : Text := s.dropWhile isInlineBlank

/-- Whether the character ends a line. -/
def endsLine (c : Char) : Bool := c == '\n' || c == '\r'

/-- The rest of the line and what comes after its end. -/
def restOfLine (s : Text) : Text × Text :=
  let line := s.takeWhile fun c => !endsLine c
  match s.drop line.length with
  | '\r' :: '\n' :: rest => (line, rest)
  | rest => (line, rest.drop 1)

/-- The text after the end of the line, if only blanks come before it. -/
def pastLineEnd? (s : Text) : Option Text :=
  match restOfLine (skipInline s) with
  | ([], rest) => some rest
  | _ => none

/-- The text after a comment, if one starts here. -/
def skipComment (s : Text) : Text :=
  match skipInline s with
  | '#' :: comment => comment.dropWhile fun c => !endsLine c
  | _ => s

/-- The text after the word `export` and blanks, if they stand here. -/
def skipExport (s : Text) : Text :=
  match past? "export".toList s with
  | some (c :: rest) => if isInlineBlank c then skipInline rest else s
  | _ => s

/-- A name and what follows it; a comment takes the place of a name. -/
def name? (s : Text) : Option (Option Text × Text) :=
  match s with
  | '#' :: _ => some (none, s)
  | '\'' :: quoted =>
    match cut? '\'' quoted with
    | some (c :: name, rest) => some (some (c :: name), rest)
    | _ => none
  | s =>
    match s.takeWhile fun c => c ≠ '=' && c ≠ '#' && !isBlank c with
    | [] => none
    | name => some (some name, s.drop name.length)

/-- What stands between an opening quote, which has been read, and the closing one, and what follows
that.  A character after a backslash does not close the quotes. -/
def quotedValue? (quote : Char) : Text → Option (Text × Text)
  | [] => none
  | ['\\'] => none
  | '\\' :: c :: s => (quotedValue? quote s).map fun r => ('\\' :: c :: r.1, r.2)
  | c :: s =>
    if c = quote then some ([], s) else (quotedValue? quote s).map fun r => (c :: r.1, r.2)

/-- The character of an escape inside single quotes. -/
def singleEscape? (c : Char) : Option Char := if c = '\\' ∨ c = '\'' then some c else none

/-- The character of an escape inside double quotes. -/
def doubleEscape? (c : Char) : Option Char :=
  if c = '\\' ∨ c = '\'' ∨ c = '"' then some c
  else if c = 'a' then some '\x07'
  else if c = 'b' then some '\x08'
  else if c = 'f' then some '\x0c'
  else if c = 'n' then some '\n'
  else if c = 'r' then some '\r'
  else if c = 't' then some '\t'
  else if c = 'v' then some '\x0b'
  else none

/-- A text with its escapes replaced; a backslash that begins none stands for itself. -/
def unescape (escape? : Char → Option Char) : Text → Text
  | [] => []
  | [c] => [c]
  | c :: d :: s =>
    match (if c = '\\' then escape? d else none) with
    | some e => e :: unescape escape? s
    | none => c :: unescape escape? (d :: s)

/-- A value up to the first blanks before a `#`. -/
def beforeComment : Text → Text
  | [] => []
  | c :: s =>
    if isBlank c && (trimStart s).head? == some '#' then [] else c :: beforeComment s

/-- A value without quotes, from its line. -/
def plainValue (line : Text) : Text := trimEnd (beforeComment line)

/-- A value and what follows it. -/
def value? (s : Text) : Option (Text × Text) :=
  match s with
  | '\'' :: quoted => (quotedValue? '\'' quoted).map fun r => (unescape singleEscape? r.1, r.2)
  | '"' :: quoted => (quotedValue? '"' quoted).map fun r => (unescape doubleEscape? r.1, r.2)
  | s =>
    let line := s.takeWhile fun c => !endsLine c
    some (plainValue line, s.drop line.length)

/-- A line of a dotenv file. -/
inductive Line where
  /-- A name and its value, if it has one. -/
  | binding (name : Text) (value : Option Text)
  /-- A comment. -/
  | comment
  /-- A line that cannot be read, by its number. -/
  | unreadable (number : Nat)
  deriving DecidableEq, Inhabited

/-- What may follow a name: an equals sign and a value.  A comment takes the place of a value only
after a blank. -/
def assigned? (s : Text) : Option (Option Text × Text) :=
  match skipInline s with
  | '=' :: rest =>
    let value := skipInline rest
    if value.head? = some '#' ∧ rest.head? ≠ some '#' then some (some [], value)
    else (value? value).map fun r => (some r.1, r.2)
  | rest => some (none, rest)

/-- How reading a line has ended. -/
inductive Reading where
  /-- With a line, and what follows it. -/
  | line (l : Line) (rest : Text)
  /-- At a place from which on the rest of the line has to be skipped. -/
  | stuck (rest : Text)
  deriving Inhabited

/-- Read a line that does not begin with a blank. -/
def readLine (s : Text) : Reading :=
  let s := skipExport s
  match name? s with
  | none => .stuck s
  | some (name, s) =>
    match assigned? s with
    | none => .stuck s
    | some (value, s) =>
      let s := skipComment s
      match pastLineEnd? s with
      | none => .stuck s
      | some rest =>
        match name with
        | some name => .line (.binding name value) rest
        | none => .line .comment rest

/-- The number of line ends in a text. -/
def lineEnds (s : Text) : Nat := (Text.unifyLineEnds s).count '\n'

/-- Read lines until the text ends.  `number` is the number of the next line and `fuel` bounds the
number of lines to come. -/
def readLines : Nat → Nat → Text → List Line
  | 0, _, _ => []
  | fuel + 1, number, s =>
    match trimStart s with
    | [] => []
    | c :: rest =>
      let (line, left) :=
        match readLine (c :: rest) with
        | .line l left => (l, left)
        | .stuck left => (.unreadable number, (restOfLine left).2)
      line :: readLines fuel (number + lineEnds (s.take (s.length - left.length))) left

/-- The lines of a dotenv file. -/
def read (s : Text) : List Line := readLines (s.length + 1) 1 s

/-- The numbers of the lines that cannot be read. -/
def unreadable (lines : List Line) : List Nat :=
  lines.filterMap fun
    | .unreadable number => some number
    | _ => none

/-- The names and values that lines bind, in order. -/
def bindings (lines : List Line) : List (Text × Option Text) :=
  lines.filterMap fun
    | .binding name value => some (name, value)
    | _ => none

/-- A reference that starts here, after its opening bracket: its name, its default, and what
follows it. -/
def reference? (s : Text) : Option (Text × Text × Text) :=
  let name := s.takeWhile fun c => c ≠ '\x7d' && c ≠ ':'
  match s.drop name.length with
  | '\x7d' :: rest => some (name, [], rest)
  | ':' :: '-' :: rest => (cut? '\x7d' rest).map fun r => (name, r.1, r.2)
  | _ => none

/-- A value with what its references stand for.  `fuel` bounds the number of its characters. -/
def expand (lookup : Text → Option Text) : Nat → Text → Text
  | 0, s => s
  | _ + 1, [] => []
  | fuel + 1, '$' :: '\x7b' :: s =>
    match reference? s with
    | some (name, fallback, rest) => (lookup name).getD fallback ++ expand lookup fuel rest
    | none => '$' :: expand lookup fuel ('\x7b' :: s)
  | fuel + 1, c :: s => c :: expand lookup fuel s

/-- The values by name.  A reference in a value stands for the value bound further up, where a name
without a value counts as empty, or else for the value in the environment. -/
def values (environment : List (Text × Text)) (lines : List Line) : Catalog (Option Text) :=
  (bindings lines).foldl
    (fun bound b =>
      let lookup (name : Text) : Option Text :=
        match bound.get? name with
        | some value => some (value.getD [])
        | none => Catalog.Entries.get? name environment
      bound.insert b.1 (b.2.map fun value => expand lookup value.length value))
    ∅

end Statechart.Dotenv
