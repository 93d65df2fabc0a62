import Statechart.Log.Value

/-!
# Room for nested values

A value is written by calls within one another, one for each list or table that is open.  For a
value that JSON does not know it is first found out what stands in its place, which takes a few
calls; then this is written in a call of its own.  Only so many calls may be open at a time, and
how many are left depends on where a record is reported: this is its `Room`.

`Value.fault?` is the first fault that is met in writing a value, if there is one: there is no room
left, or an integer has too many digits.
-/

namespace Statechart

namespace Value

/-- The greatest of some numbers. -/
def greatest (numbers : List Nat) : Nat := numbers.foldr max 0

/-- The calls within one another that make the JSON of a state. -/
def stateCalls (s : State) : Nat := if s.isFinal then 3 else 1

/-- The calls within one another that make the JSON of a workflow. -/
def workflowCalls (w : Workflow) : Nat := 2 + greatest (w.states.values.map stateCalls)

/-- The calls within one another that make the JSON of a composition. -/
def compositionCalls (c : Composition) : Nat := 2 + greatest (c.regions.values.map workflowCalls)

/-- The calls within one another that make the literal of a machine: those for its states come
after those for the machine. -/
def machineCalls (m : Machine) : Nat :=
  let calls (s : State) : Nat := if s.isFinal then 6 else if s.on.isEmpty then 4 else 5
  4 + greatest (m.states.values.map calls)

/-- The calls within one another by which it is found out what stands in the place of a value. -/
def searchCalls : Value → Nat
  | .state s => 1 + stateCalls s
  | .workflow w => 1 + workflowCalls w
  | .composition c => 1 + compositionCalls c
  | .machine m => 1 + machineCalls m
  | .path _ => 5
  | .bytes _ => 2
  | _ => 0

end Value

/-- The room for the calls by which a line is written. -/
structure Room where
  /-- The number of calls that may still be open at a time.  So many are left to a reporter that
  is itself called by no other function. -/
  levels : Nat := 987
  /-- The calls within one another by which it is found out what stands in the place of a value that
  JSON does not know. -/
  search : Value → Nat := Value.searchCalls

namespace Room

instance : Inhabited Room := ⟨{}⟩

/-- What there is no room for. -/
inductive Shortage where
  /-- For a list or a table, or for what stands in the place of a value. -/
  | nested
  /-- For finding out what stands in the place of a value. -/
  | search
  deriving DecidableEq, Inhabited

/-- The message about a shortage. -/
def Shortage.message : Shortage → Text
  | .nested => "maximum recursion depth exceeded while encoding a JSON object".toList
  | .search => "maximum recursion depth exceeded".toList

end Room

namespace Value

/-- Why a value cannot be written. -/
inductive Fault where
  /-- There is no room for it. -/
  | noRoom (shortage : Room.Shortage)
  /-- An integer in it has too many digits. -/
  | longInteger
  deriving DecidableEq, Inhabited

/-- The fault in writing what stands in the place of a value that JSON does not know, which holds no
integer. -/
def standInFault? (room : Room) (v : Value) (levels : Nat) : Option Fault :=
  if levels < room.search v then some (.noRoom .search)
  else if levels < v.toJson.depth + 1 then some (.noRoom .nested)
  else .none

mutual

/-- The first fault in writing a value while so many calls may still be open. -/
def fault? (room : Room) (v : Value) (levels : Nat) : Option Fault :=
  match v with
  | .none | .bool _ | .double _ | .text _ | .finalKind => .none
  | .int i => if Digits.isLong i then some .longInteger else .none
  | .list items =>
    match levels with
    | 0 => some (.noRoom .nested)
    | levels + 1 => itemsFault? room items levels
  | .table fields =>
    match levels with
    | 0 => some (.noRoom .nested)
    | levels + 1 => fieldsFault? room fields levels
  | v => standInFault? room v levels

/-- The first fault in writing the items of a list. -/
def itemsFault? (room : Room) (items : List Value) (levels : Nat) : Option Fault :=
  match items with
  | [] => .none
  | item :: items => (item.fault? room levels).or (itemsFault? room items levels)

/-- The first fault in writing named values. -/
def fieldsFault? (room : Room) (fields : List (Text × Value)) (levels : Nat) : Option Fault :=
  match fields with
  | [] => .none
  | (_, value) :: fields => (value.fault? room levels).or (fieldsFault? room fields levels)

end

end Value

end Statechart
