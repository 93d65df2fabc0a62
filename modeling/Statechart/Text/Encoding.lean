import Statechart.Text.Halves
import Statechart.Text.Utf8

/-!
# Encodings of texts

Bytes hold a text in UTF-8, or in units of two or four bytes of which either the first or the last
is the most significant.  `Encoding.guess` tells from the zeros among the first bytes which it is,
provided that the text begins with two ASCII characters.  `Encoding.codes?` gives the codes that
bytes hold; a half of a surrogate pair that stands alone keeps its own code.
-/

namespace Statechart

/-- The order of the bytes of a unit. -/
inductive ByteOrder where
  /-- The most significant byte comes first. -/
  | big
  /-- The most significant byte comes last. -/
  | little
  deriving DecidableEq, Inhabited

/-- The number that bytes stand for. -/
def ByteOrder.value (order : ByteOrder) (bytes : List UInt8) : Nat :=
  match order with
  | .big => bytes.foldl (fun n b => 256 * n + b.toNat) 0
  | .little => bytes.foldr (fun b n => 256 * n + b.toNat) 0

/-- An encoding of texts. -/
inductive Encoding where
  /-- One to four bytes to a character. -/
  | utf8
  /-- Units of two bytes, one or two of them to a character. -/
  | utf16 (order : ByteOrder)
  /-- Units of four bytes. -/
  | utf32 (order : ByteOrder)
  deriving DecidableEq, Inhabited

namespace Encoding

/-- The encoding of bytes that begin with two ASCII characters, or of a single one. -/
def guess (bytes : List UInt8) : Encoding :=
  match bytes with
  | a :: b :: c :: d :: _ =>
    if a = 0 then (if b = 0 then .utf32 .big else .utf16 .big)
    else if b = 0 then (if c = 0 ∧ d = 0 then .utf32 .little else .utf16 .little)
    else .utf8
  | [a, b] => if a = 0 then .utf16 .big else if b = 0 then .utf16 .little else .utf8
  | _ => .utf8

/-- The units of two bytes, if no byte is left over. -/
def units16? (order : ByteOrder) : List UInt8 → Option (List Nat)
  | [] => some []
  | a :: b :: bytes => (units16? order bytes).map (order.value [a, b] :: ·)
  | _ => none

/-- Units with the halves joined that belong together. -/
def joinHalves : List Nat → List Nat
  | [] => []
  | [n] => [n]
  | n :: m :: units =>
    match Halves.pair? n m with
    | some code => code :: joinHalves units
    | none => n :: joinHalves (m :: units)

/-- The units of four bytes, if no byte is left over and none is beyond the last character. -/
def units32? (order : ByteOrder) : List UInt8 → Option (List Nat)
  | [] => some []
  | a :: b :: c :: d :: bytes =>
    let n := order.value [a, b, c, d]
    if n < 0x110000 then (units32? order bytes).map (n :: ·) else none
  | _ => none

/-- The codes that bytes hold. -/
def codes? (e : Encoding) (bytes : List UInt8) : Option (List Nat) :=
  match e with
  | .utf8 => (Utf8.decode bytes).toOption.map (List.map Char.toNat)
  | .utf16 order => (units16? order bytes).map joinHalves
  | .utf32 order => units32? order bytes

end Encoding

end Statechart
