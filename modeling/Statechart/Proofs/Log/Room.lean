import Mathlib.Order.MinMax
import Statechart.Log.Room
import Statechart.Proofs.Json.Descriptor

/-!
# When there is room for a value

`Value.calls` is the greatest number of calls that are open at a time while a value is written.  It
decides whether there is room for the value, whatever is met first: writing finds no fault if and
only if no more calls than these may be open and no integer is too long
(`Value.fault?_eq_none_iff`).
-/

namespace Statechart

/-! ## Depths -/

namespace Json

/-- The depth of fields is bounded by a number if that of each value is. -/
lemma fieldsDepth_le_iff {fields : List (Text × Json)} {n : Nat} :
    fieldsDepth fields ≤ n ↔ ∀ field ∈ fields, field.2.depth ≤ n := by
  induction fields with
  | nil => simp [fieldsDepth]
  | cons field fields ih => simp [fieldsDepth, ih]

end Json

/-! ## Workflows -/

/-- In the JSON of a state only its transitions are nested. -/
lemma State.depth_toJson_le (s : State) : s.toJson.depth ≤ 2 := by
  have hon : (transitionsJson s.on).depth ≤ 1 := by
    rw [transitionsJson, Json.ofCatalog, Json.depth, Nat.succ_le_succ_iff, Json.fieldsDepth_le_iff,
      List.forall_mem_map]
    exact fun _ _ => Nat.zero_le _
  rcases s.toJson_cases with ⟨-, h⟩ | ⟨-, -, h⟩ | ⟨-, h⟩
  all_goals
    rw [h, Json.depth, Nat.succ_le_succ_iff, Json.fieldsDepth_le_iff]
    simp [hon, Json.depth]

/-- In the JSON of a workflow its states are nested twice. -/
lemma Workflow.depth_toJson_le (w : Workflow) : w.toJson.depth ≤ 4 := by
  have hstates : (statesJson w.states).depth ≤ 3 := by
    rw [statesJson, Json.ofCatalog, Json.depth, Nat.succ_le_succ_iff, Json.fieldsDepth_le_iff,
      List.forall_mem_map]
    exact fun e _ => e.2.depth_toJson_le
  rw [Workflow.toJson, Json.depth, Nat.succ_le_succ_iff, Json.fieldsDepth_le_iff]
  simpa [Json.depth] using hstates

namespace Value

/-- The greatest of some numbers is bounded by what bounds each of them. -/
lemma greatest_le_iff {numbers : List Nat} {n : Nat} :
    greatest numbers ≤ n ↔ ∀ m ∈ numbers, m ≤ n := by
  induction numbers with
  | nil => simp [greatest]
  | cons m numbers ih => simpa [greatest] using fun _ => ih

/-- It takes few calls to find out what stands in the place of a workflow. -/
lemma searchCalls_workflow_le (w : Workflow) : searchCalls (.workflow w) ≤ 6 := by
  have hstates : greatest (w.states.values.map stateCalls) ≤ 3 := by
    rw [greatest_le_iff, List.forall_mem_map]
    intro s _
    unfold stateCalls
    split_ifs <;> omega
  rw [searchCalls, workflowCalls]
  omega

/-! ## Values -/

variable {room : Room} {levels : Nat}

mutual

/-- The greatest number of calls that are open at a time while a value is written. -/
def calls (room : Room) : Value → Nat
  | .none | .bool _ | .int _ | .double _ | .text _ | .finalKind => 0
  | .list items => itemsCalls room items + 1
  | .table fields => fieldsCalls room fields + 1
  | v => max (room.search v) (v.toJson.depth + 1)

/-- The greatest number of calls that are open at a time while the items of a list are written. -/
def itemsCalls (room : Room) : List Value → Nat
  | [] => 0
  | item :: items => max (item.calls room) (itemsCalls room items)

/-- The greatest number of calls that are open at a time while named values are written. -/
def fieldsCalls (room : Room) : List (Text × Value) → Nat
  | [] => 0
  | (_, value) :: fields => max (value.calls room) (fieldsCalls room fields)

end

/-- There is room for what stands in the place of a value if there is room for finding it out and
for writing it. -/
lemma standInFault?_eq_none_iff {v : Value} (h : v.hasLongInteger = false) :
    standInFault? room v levels = .none ↔
      max (room.search v) (v.toJson.depth + 1) ≤ levels ∧ v.hasLongInteger = false := by
  unfold standInFault?
  rw [max_le_iff, and_iff_left h]
  split_ifs <;> simp <;> omega

mutual

/-- Writing a value finds no fault if and only if there is room for it and no integer is too
long. -/
lemma fault?_eq_none_iff : ∀ (v : Value) (levels : Nat),
    v.fault? room levels = .none ↔ v.calls room ≤ levels ∧ v.hasLongInteger = false
  | .none, _ | .bool _, _ | .double _, _ | .text _, _ | .finalKind, _ =>
    iff_of_true rfl ⟨Nat.zero_le _, rfl⟩
  | .int i, _ => by
    simp [fault?, calls, hasLongInteger, toJson, Json.hasLongInteger]
  | .list items, 0 => by simp [fault?, calls]
  | .list items, levels + 1 => by
    rw [fault?, calls, Nat.add_le_add_iff_right]
    exact itemsFault?_eq_none_iff items levels
  | .table fields, 0 => by simp [fault?, calls]
  | .table fields, levels + 1 => by
    rw [fault?, calls, Nat.add_le_add_iff_right]
    exact fieldsFault?_eq_none_iff fields levels
  | .state s, _ => standInFault?_eq_none_iff s.plain_toJson.hasLongInteger_eq_false
  | .workflow w, _ => standInFault?_eq_none_iff w.plain_toJson.hasLongInteger_eq_false
  | .composition c, _ => standInFault?_eq_none_iff c.plain_toJson.hasLongInteger_eq_false
  | .machine _, _ | .path _, _ | .bytes _, _ => standInFault?_eq_none_iff rfl

/-- Writing items finds no fault if and only if there is room for each and no integer is too
long. -/
lemma itemsFault?_eq_none_iff : ∀ (items : List Value) (levels : Nat),
    itemsFault? room items levels = .none ↔
      itemsCalls room items ≤ levels ∧ Json.haveLongInteger (itemsToJson items) = false
  | [], _ => iff_of_true rfl ⟨Nat.zero_le _, rfl⟩
  | item :: items, levels => by
    have hitem := fault?_eq_none_iff item levels
    have hitems := itemsFault?_eq_none_iff items levels
    rw [itemsFault?, Option.or_eq_none_iff, hitem, hitems, itemsCalls, max_le_iff, itemsToJson,
      Json.haveLongInteger, Bool.or_eq_false_iff, and_and_and_comm]
    rfl

/-- Writing named values finds no fault if and only if there is room for each and no integer is too
long. -/
lemma fieldsFault?_eq_none_iff : ∀ (fields : List (Text × Value)) (levels : Nat),
    fieldsFault? room fields levels = .none ↔
      fieldsCalls room fields ≤ levels ∧ Json.fieldsHaveLongInteger (fieldsToJson fields) = false
  | [], _ => iff_of_true rfl ⟨Nat.zero_le _, rfl⟩
  | (_, value) :: fields, levels => by
    have hvalue := fault?_eq_none_iff value levels
    have hfields := fieldsFault?_eq_none_iff fields levels
    rw [fieldsFault?, Option.or_eq_none_iff, hvalue, hfields, fieldsCalls, max_le_iff,
      fieldsToJson, Json.fieldsHaveLongInteger, Bool.or_eq_false_iff, and_and_and_comm]
    rfl

end

end Value

end Statechart
