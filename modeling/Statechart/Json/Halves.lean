import Statechart.Json.Reader

/-!
# JSON values with halves of surrogate pairs

A text in JSON may hold halves of surrogate pairs that stand alone.  They are read as stand-ins out
of a block that the JSON does not use (`Json.freeBlock`).  A value that holds a stand-in cannot be
written; only in names a half may be replaced (`Json.settled?`).
-/

namespace Statechart.Json

open Halves (Block)

/-- The codes of the characters that a text writes as two escapes, and perhaps of some that it does
not write. -/
def escapedPairs : Text → List Nat
  | [] => []
  | c :: s =>
    match c :: s with
    | '\\' :: 'u' :: a :: b :: c :: d :: '\\' :: 'u' :: e :: f :: g :: h :: _ =>
      (do Halves.pair? (← code? a b c d) (← code? e f g h)).toList ++ escapedPairs s
    | _ => escapedPairs s

/-- A block that a JSON text of these codes does not use. -/
def freeBlock (codes : List Nat) : Block :=
  .freeOf (codes ++ escapedPairs (codes.map Char.ofNat))

mutual

/-- Whether the value holds a stand-in. -/
def holds (b : Block) : Json → Bool
  | .text s => b.occursIn s
  | .array items => someHolds b items
  | .object fields => someFieldHolds b fields
  | _ => false

/-- Whether one of the items holds a stand-in. -/
def someHolds (b : Block) : List Json → Bool
  | [] => false
  | item :: items => item.holds b || someHolds b items

/-- Whether the name or value of one of the fields holds a stand-in. -/
def someFieldHolds (b : Block) : List (Text × Json) → Bool
  | [] => false
  | (name, value) :: fields => b.occursIn name || value.holds b || someFieldHolds b fields

end

/-- A name with three replacement characters for each stand-in. -/
def settledName (b : Block) (name : Text) : Text :=
  name.flatMap fun c => if b.contains c.toNat then List.replicate 3 '\ufffd' else [c]

mutual

/-- The value with its names in characters, if no stand-in occurs outside names. -/
def settled? (b : Block) : Json → Option Json
  | .text s => if b.occursIn s then none else some (.text s)
  | .array items => (settledItems? b items).map .array
  | .object fields => (settledFields? b fields).map .object
  | j => some j

/-- The items with their names in characters. -/
def settledItems? (b : Block) : List Json → Option (List Json)
  | [] => some []
  | item :: items => do return (← item.settled? b) :: (← settledItems? b items)

/-- The fields with their names in characters. -/
def settledFields? (b : Block) : List (Text × Json) → Option (List (Text × Json))
  | [] => some []
  | (name, value) :: fields => do
    return (settledName b name, ← value.settled? b) :: (← settledFields? b fields)

end

end Statechart.Json
