import Statechart.Numeral.Double
import Statechart.Catalog

/-!
# JSON values

A JSON value keeps the order of the fields of its objects and the distinction between integers,
which have any size, and floating-point numbers.  `Json.field?` looks a field up, and
`Json.mergeFields` is the rule for a name that is written twice: the last value counts, in the
place of the first.
-/

namespace Statechart

/-- A JSON value. -/
inductive Json where
  /-- The value `null`. -/
  | null
  /-- A truth value. -/
  | bool (b : Bool)
  /-- An integer. -/
  | int (i : Int)
  /-- A floating-point number, or infinity, or what is not a number. -/
  | double (x : Double)
  /-- A text. -/
  | text (s : Text)
  /-- A list of values. -/
  | array (items : List Json)
  /-- Named values in order. -/
  | object (fields : List (Text × Json))
  deriving Inhabited

namespace Json

/-- An object of a catalog. -/
def ofCatalog {α : Type} (f : α → Json) (c : Catalog α) : Json :=
  .object (c.entries.map fun e => (e.1, f e.2))

/-- A field of an object. -/
def field? (name : Text) : Json → Option Json
  | .object fields => Catalog.Entries.get? name fields
  | _ => none

/-- Fields as they count when a name may have been written more than once. -/
def mergeFields (fields : List (Text × Json)) : List (Text × Json) :=
  fields.foldl (fun es e => Catalog.Entries.revise e.1 (fun _ => e.2) es) []

mutual

/-- Whether all numbers in the value are finite. -/
def isFinite : Json → Bool
  | .double (.finite ..) => true
  | .double _ => false
  | .array items => areFinite items
  | .object fields => fieldsAreFinite fields
  | _ => true

/-- Whether all numbers in the items are finite. -/
def areFinite : List Json → Bool
  | [] => true
  | item :: items => item.isFinite && areFinite items

/-- Whether all numbers in the fields are finite. -/
def fieldsAreFinite : List (Text × Json) → Bool
  | [] => true
  | (_, value) :: fields => value.isFinite && fieldsAreFinite fields

end

mutual

/-- Whether an integer in the value has too many digits to be written. -/
def hasLongInteger : Json → Bool
  | .int i => Digits.isLong i
  | .array items => haveLongInteger items
  | .object fields => fieldsHaveLongInteger fields
  | _ => false

/-- Whether an integer in the items has too many digits to be written. -/
def haveLongInteger : List Json → Bool
  | [] => false
  | item :: items => item.hasLongInteger || haveLongInteger items

/-- Whether an integer in the fields has too many digits to be written. -/
def fieldsHaveLongInteger : List (Text × Json) → Bool
  | [] => false
  | (_, value) :: fields => value.hasLongInteger || fieldsHaveLongInteger fields

end

mutual

/-- The greatest number of arrays and objects in the value that are open at a time. -/
def depth : Json → Nat
  | .array items => itemsDepth items + 1
  | .object fields => fieldsDepth fields + 1
  | _ => 0

/-- The greatest number of arrays and objects in the items that are open at a time. -/
def itemsDepth : List Json → Nat
  | [] => 0
  | item :: items => max item.depth (itemsDepth items)

/-- The greatest number of arrays and objects in the fields that are open at a time. -/
def fieldsDepth : List (Text × Json) → Nat
  | [] => 0
  | (_, value) :: fields => max value.depth (fieldsDepth fields)

end

end Json

end Statechart
