import Statechart.Text.Basic

/-!
# Halves of surrogate pairs

A code from U+D800 to U+DFFF is half of a surrogate pair.  A high half and the low half after it
make a character; a half that stands alone is none.  Some encodings of texts can hold such a half
all the same.  Here it is kept as a stand-in: a character out of a block of as many characters as
there are halves, for which the text has no other use.

`Halves.Block.freeOf` finds a block that a text does not use, and `Halves.Block.half?` tells the
stand-ins of a block from all other characters.
-/

namespace Statechart.Halves

/-- Whether a code is the first half of a surrogate pair. -/
def isHigh (n : Nat) : Bool := 0xD800 ≤ n && n < 0xDC00

/-- Whether a code is the second half of a surrogate pair. -/
def isLow (n : Nat) : Bool := 0xDC00 ≤ n && n < 0xE000

/-- The code of the character that two halves make. -/
def join (high low : Nat) : Nat := 0x10000 + (high - 0xD800) * 0x400 + (low - 0xDC00)

/-- The code of the character that two codes make, if they are halves that belong together. -/
def pair? (high low : Nat) : Option Nat :=
  if isHigh high && isLow low then some (join high low) else none

/-- The number of halves. -/
def count : Nat := 0x800

/-- A block of characters that stand for the halves. -/
structure Block where
  /-- The code of the first character of the block. -/
  first : Nat
  deriving DecidableEq, Inhabited

namespace Block

/-- Whether a code lies in the block. -/
def contains (b : Block) (n : Nat) : Bool := b.first ≤ n && n < b.first + count

/-- The character that stands for a half. -/
def standIn (b : Block) (half : Nat) : Char := Char.ofNat (b.first + (half - 0xD800))

/-- The half that a character stands for. -/
def half? (b : Block) (c : Char) : Option Nat :=
  if b.contains c.toNat then some (c.toNat - b.first + 0xD800) else none

/-- The character of a code, or its stand-in. -/
def character (b : Block) (n : Nat) : Char :=
  if isHigh n || isLow n then b.standIn n else Char.ofNat n

/-- Whether a text holds a stand-in. -/
def occursIn (b : Block) (s : Text) : Bool := s.any fun c => b.contains c.toNat

/-- Blocks of characters that have no meaning in Unicode: the planes 4 to 13. -/
def candidates : List Block := (List.range 320).map fun k => ⟨0x40000 + count * k⟩

/-- A block beyond the last character. -/
def beyond : Block := ⟨0x110000⟩

/-- A block that a text with these codes does not use: a candidate, or the block beyond all
characters if the text uses every candidate. -/
def freeOf (codes : List Nat) : Block :=
  (candidates.find? fun b => codes.all fun n => !b.contains n).getD beyond

end Block

end Statechart.Halves
