import Statechart.Text.Basic

/-!
# Blank characters and words

Two notions of blank are in use.  `Text.isBlank` is the wide one: the white space of Unicode
together with the four information separators U+001C to U+001F.  It decides where a diagram block
begins and ends, and it is what `Text.trim` removes.  `Text.isAsciiBlank` is the narrow one that
may stand between the parts of a diagram line.  Names are made of ASCII word characters
(`Text.isWordChar`).
-/

namespace Statechart.Text

/-- White space of any script: the characters that `trim` removes. -/
def isBlank (c : Char) : Bool :=
  let n := c.toNat
  (9 ≤ n && n ≤ 13) || (28 ≤ n && n ≤ 32) || n == 0x85 || n == 0xA0 || n == 0x1680 ||
    (0x2000 ≤ n && n ≤ 0x200A) || n == 0x2028 || n == 0x2029 || n == 0x202F || n == 0x205F ||
    n == 0x3000

/-- Space, tab, line feed, vertical tab, form feed and carriage return. -/
def isAsciiBlank (c : Char) : Bool :=
  let n := c.toNat
  (9 ≤ n && n ≤ 13) || n == 32

/-- A character of a name: an ASCII letter or digit, or the underscore. -/
def isWordChar (c : Char) : Bool := c.isAlphanum || c == '_'

/-- Every narrow blank is a wide one. -/
theorem isBlank_of_isAsciiBlank {c : Char} (h : isAsciiBlank c = true) : isBlank c = true := by
  simp only [isAsciiBlank, isBlank, Bool.or_eq_true, Bool.and_eq_true, decide_eq_true_eq,
    beq_iff_eq] at h ⊢
  omega

/-- The text without the blanks at its start. -/
def trimStart (s : Text) : Text := s.dropWhile isBlank

/-- The text without the blanks at its end. -/
def trimEnd (s : Text) : Text := (s.reverse.dropWhile isBlank).reverse

/-- The text without the blanks at either end. -/
def trim (s : Text) : Text := trimEnd (trimStart s)

/-- The text without the ASCII blanks at its start. -/
def skipAsciiBlanks (s : Text) : Text := s.dropWhile isAsciiBlank

/-- The name at the start of a text, as long as possible, with what follows it. -/
def word? (s : Text) : Option (Text × Text) :=
  match s.takeWhile isWordChar with
  | [] => none
  | w => some (w, s.dropWhile isWordChar)

end Statechart.Text
