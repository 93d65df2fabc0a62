import Statechart.Log.Moment
import Statechart.Proofs.Catalog.Related
import Statechart.Proofs.Log.Room

/-!
# Values as data

A log line shows a state, a workflow or a composition by its JSON and everything else that JSON does
not know by its text, at whatever depth of lists and tables it stands.  `Value.asData` puts the JSON
or the text in the place of every such value beforehand.

Nothing is left then that JSON does not know (`Value.isData_asData`), the value is shown in the same
way (`Value.toJson_asData`), and it takes no more calls (`Value.calls_asData_le`), since it no
longer has to be found out what stands in the place of anything.  `Value.ShownAs` holds what is
needed of the last two; it goes from the values of a table to the table.
-/

namespace Statechart

open Catalog.Entries (Related)

namespace Value

/-- A value that JSON knows at every depth. -/
inductive IsData : Value → Prop
  | none : IsData .none
  | bool (b : Bool) : IsData (.bool b)
  | int (i : Int) : IsData (.int i)
  | double (x : Double) : IsData (.double x)
  | text (s : Text) : IsData (.text s)
  | list {items : List Value} (h : ∀ item ∈ items, IsData item) : IsData (.list items)
  | table {fields : List (Text × Value)} (h : ∀ field ∈ fields, IsData field.2) :
    IsData (.table fields)
  | finalKind : IsData .finalKind

mutual

/-- A value in which everything that JSON does not know is replaced: states, workflows and
compositions by their JSON, and all else by its text. -/
def asData : Value → Value
  | .list items => .list (itemsAsData items)
  | .table fields => .table (fieldsAsData fields)
  | .state s => ofJson s.toJson
  | .workflow w => ofJson w.toJson
  | .composition c => ofJson c.toJson
  | .machine m => .text (display (.machine m))
  | .path p => .text (display (.path p))
  | .bytes bs => .text (display (.bytes bs))
  | v => v

/-- The items of a list as data. -/
def itemsAsData : List Value → List Value
  | [] => []
  | item :: items => asData item :: itemsAsData items

/-- Named values as data. -/
def fieldsAsData : List (Text × Value) → List (Text × Value)
  | [] => []
  | (name, value) :: fields => (name, asData value) :: fieldsAsData fields

end

mutual

/-- A JSON value is itself as a value in a log line. -/
lemma toJson_ofJson : ∀ j : Json, (ofJson j).toJson = j
  | .null | .bool _ | .int _ | .double _ | .text _ => rfl
  | .array items => congrArg Json.array (itemsToJson_itemsOfJson items)
  | .object fields => congrArg Json.object (fieldsToJson_fieldsOfJson fields)

/-- The items of a JSON array are themselves as items in a log line. -/
lemma itemsToJson_itemsOfJson : ∀ items : List Json, itemsToJson (itemsOfJson items) = items
  | [] => rfl
  | item :: items => by
    rw [itemsOfJson, itemsToJson, toJson_ofJson item, itemsToJson_itemsOfJson items]

/-- The fields of a JSON object are themselves as named values in a log line. -/
lemma fieldsToJson_fieldsOfJson :
    ∀ fields : List (Text × Json), fieldsToJson (fieldsOfJson fields) = fields
  | [] => rfl
  | (name, value) :: fields => by
    rw [fieldsOfJson, fieldsToJson, toJson_ofJson value, fieldsToJson_fieldsOfJson fields]

end

mutual

/-- A value is shown in the same way as data. -/
lemma toJson_asData : ∀ v : Value, v.asData.toJson = v.toJson
  | .list items => congrArg Json.array (itemsToJson_itemsAsData items)
  | .table fields => congrArg Json.object (fieldsToJson_fieldsAsData fields)
  | .state s => toJson_ofJson s.toJson
  | .workflow w => toJson_ofJson w.toJson
  | .composition c => toJson_ofJson c.toJson
  | .none | .bool _ | .int _ | .double _ | .text _ | .machine _ | .path _ | .bytes _
  | .finalKind => rfl

/-- Items are shown in the same way as data. -/
lemma itemsToJson_itemsAsData : ∀ items : List Value,
    itemsToJson (itemsAsData items) = itemsToJson items
  | [] => rfl
  | item :: items => by
    rw [itemsAsData, itemsToJson, toJson_asData item, itemsToJson_itemsAsData items, itemsToJson]

/-- Named values are shown in the same way as data. -/
lemma fieldsToJson_fieldsAsData : ∀ fields : List (Text × Value),
    fieldsToJson (fieldsAsData fields) = fieldsToJson fields
  | [] => rfl
  | (name, value) :: fields => by
    rw [fieldsAsData, fieldsToJson, toJson_asData value, fieldsToJson_fieldsAsData fields,
      fieldsToJson]

end

section

variable {room : Room}

mutual

/-- A JSON value takes as many calls as it is deep, for nothing in it has to be found out. -/
lemma calls_ofJson : ∀ j : Json, (ofJson j).calls room = j.depth
  | .null | .bool _ | .int _ | .double _ | .text _ => rfl
  | .array items => congrArg (· + 1) (itemsCalls_itemsOfJson items)
  | .object fields => congrArg (· + 1) (fieldsCalls_fieldsOfJson fields)

/-- The items of a JSON array take as many calls as they are deep. -/
lemma itemsCalls_itemsOfJson : ∀ items : List Json,
    itemsCalls room (itemsOfJson items) = Json.itemsDepth items
  | [] => rfl
  | item :: items => by
    rw [itemsOfJson, itemsCalls, calls_ofJson item, itemsCalls_itemsOfJson items, Json.itemsDepth]

/-- The fields of a JSON object take as many calls as they are deep. -/
lemma fieldsCalls_fieldsOfJson : ∀ fields : List (Text × Json),
    fieldsCalls room (fieldsOfJson fields) = Json.fieldsDepth fields
  | [] => rfl
  | (name, value) :: fields => by
    rw [fieldsOfJson, fieldsCalls, calls_ofJson value, fieldsCalls_fieldsOfJson fields,
      Json.fieldsDepth]

end

/-- The JSON of a value takes fewer calls than if it first has to be found out. -/
lemma calls_ofJson_toJson_le (v : Value) :
    (ofJson v.toJson).calls room ≤ max (room.search v) (v.toJson.depth + 1) := by
  rw [calls_ofJson]
  exact (Nat.le_succ _).trans (le_max_right _ _)

mutual

/-- A value takes no more calls as data. -/
lemma calls_asData_le : ∀ v : Value, v.asData.calls room ≤ v.calls room
  | .list items => Nat.succ_le_succ (itemsCalls_itemsAsData_le items)
  | .table fields => Nat.succ_le_succ (fieldsCalls_fieldsAsData_le fields)
  | .state s => calls_ofJson_toJson_le (.state s)
  | .workflow w => calls_ofJson_toJson_le (.workflow w)
  | .composition c => calls_ofJson_toJson_le (.composition c)
  | .machine _ | .path _ | .bytes _ => Nat.zero_le _
  | .none | .bool _ | .int _ | .double _ | .text _ | .finalKind => le_rfl

/-- Items take no more calls as data. -/
lemma itemsCalls_itemsAsData_le : ∀ items : List Value,
    itemsCalls room (itemsAsData items) ≤ itemsCalls room items
  | [] => le_rfl
  | item :: items => by
    rw [itemsAsData, itemsCalls, itemsCalls]
    exact max_le_max (calls_asData_le item) (itemsCalls_itemsAsData_le items)

/-- Named values take no more calls as data. -/
lemma fieldsCalls_fieldsAsData_le : ∀ fields : List (Text × Value),
    fieldsCalls room (fieldsAsData fields) ≤ fieldsCalls room fields
  | [] => le_rfl
  | (name, value) :: fields => by
    rw [fieldsAsData, fieldsCalls, fieldsCalls]
    exact max_le_max (calls_asData_le value) (fieldsCalls_fieldsAsData_le fields)

end

end

mutual

/-- JSON holds nothing that JSON does not know. -/
lemma isData_ofJson : ∀ j : Json, (ofJson j).IsData
  | .null => .none
  | .bool b => .bool b
  | .int i => .int i
  | .double x => .double x
  | .text s => .text s
  | .array items => .list (isData_itemsOfJson items)
  | .object fields => .table (isData_fieldsOfJson fields)

/-- The items of a JSON array hold nothing that JSON does not know. -/
lemma isData_itemsOfJson : ∀ items : List Json, ∀ item ∈ itemsOfJson items, item.IsData
  | [] => List.forall_mem_nil _
  | item :: items => List.forall_mem_cons.mpr ⟨isData_ofJson item, isData_itemsOfJson items⟩

/-- The fields of a JSON object hold nothing that JSON does not know. -/
lemma isData_fieldsOfJson :
    ∀ fields : List (Text × Json), ∀ field ∈ fieldsOfJson fields, field.2.IsData
  | [] => List.forall_mem_nil _
  | (_, value) :: fields =>
    List.forall_mem_cons.mpr ⟨isData_ofJson value, isData_fieldsOfJson fields⟩

end

mutual

/-- Nothing is left that JSON does not know. -/
lemma isData_asData : ∀ v : Value, v.asData.IsData
  | .none => .none
  | .bool b => .bool b
  | .int i => .int i
  | .double x => .double x
  | .text s => .text s
  | .list items => .list (isData_itemsAsData items)
  | .table fields => .table (isData_fieldsAsData fields)
  | .state s => isData_ofJson s.toJson
  | .workflow w => isData_ofJson w.toJson
  | .composition c => isData_ofJson c.toJson
  | .machine _ | .path _ | .bytes _ => .text _
  | .finalKind => .finalKind

/-- In items nothing is left that JSON does not know. -/
lemma isData_itemsAsData : ∀ items : List Value, ∀ item ∈ itemsAsData items, item.IsData
  | [] => List.forall_mem_nil _
  | item :: items => List.forall_mem_cons.mpr ⟨isData_asData item, isData_itemsAsData items⟩

/-- In named values nothing is left that JSON does not know. -/
lemma isData_fieldsAsData :
    ∀ fields : List (Text × Value), ∀ field ∈ fieldsAsData fields, field.2.IsData
  | [] => List.forall_mem_nil _
  | (_, value) :: fields =>
    List.forall_mem_cons.mpr ⟨isData_asData value, isData_fieldsAsData fields⟩

end

/-- A value is a moment as data if and only if it is one as it is. -/
lemma moment_asData_eq_ok_iff (v : Value) {moment : Moment} :
    Moment.ofValue v.asData = .ok moment ↔ Moment.ofValue v = .ok moment := by
  cases v <;> simp [asData, ofJson, State.toJson, Workflow.toJson, Composition.toJson,
    Moment.ofValue]

/-! ## Values that become data -/

/-- A value stays as it is or becomes data. -/
def Becomes (v w : Value) : Prop := w = v ∨ w = v.asData

/-- One value is shown as another one is, and takes no more calls. -/
structure ShownAs (room : Room) (v w : Value) : Prop where
  /-- It has the same JSON. -/
  toJson_eq : w.toJson = v.toJson
  /-- It takes no more calls. -/
  calls_le : w.calls room ≤ v.calls room

variable {room : Room} {v w : Value} {fields fields' : List (Text × Value)}

lemma ShownAs.refl (v : Value) : ShownAs room v v := ⟨rfl, le_rfl⟩

/-- As data a value is shown in the same way. -/
lemma Becomes.shownAs (h : v.Becomes w) : ShownAs room v w := by
  obtain rfl | rfl := h
  · exact .refl _
  · exact ⟨toJson_asData v, calls_asData_le v⟩

/-- A moment stays a moment, and nothing becomes one. -/
lemma Becomes.moment_eq_ok_iff (h : v.Becomes w) {moment : Moment} :
    Moment.ofValue w = .ok moment ↔ Moment.ofValue v = .ok moment := by
  obtain rfl | rfl := h
  · exact Iff.rfl
  · exact moment_asData_eq_ok_iff v

/-- A table is shown in the same way if each of its values is. -/
lemma ShownAs.table (h : Related (fun _ => ShownAs room) fields fields') :
    ShownAs room (.table fields) (.table fields') := by
  suffices hfields : fieldsToJson fields' = fieldsToJson fields ∧
      fieldsCalls room fields' ≤ fieldsCalls room fields from
    ⟨congrArg Json.object hfields.1, Nat.succ_le_succ hfields.2⟩
  induction h with
  | nil => exact ⟨rfl, le_rfl⟩
  | cons he _ ih =>
    obtain ⟨hjson, hcalls⟩ := ih
    rw [fieldsToJson, fieldsToJson, hjson, he.1, he.2.toJson_eq, fieldsCalls, fieldsCalls]
    exact ⟨rfl, max_le_max he.2.calls_le hcalls⟩

/-- Named values become data one by one. -/
lemma related_fieldsAsData : ∀ fields : List (Text × Value),
    Related (fun _ => Becomes) fields (fieldsAsData fields)
  | [] => .nil
  | (_, _) :: fields => .cons ⟨rfl, .inr rfl⟩ (related_fieldsAsData fields)

/-! ## Lists within one another -/

/-- A value in so many lists. -/
def nested : Nat → Value → Value
  | 0, v => v
  | n + 1, v => .list [nested n v]

/-- Each list takes one call. -/
lemma calls_nested (n : Nat) (v : Value) : (nested n v).calls room = v.calls room + n := by
  induction n with
  | zero => rfl
  | succ n ih => rw [nested, calls, itemsCalls, itemsCalls, ih, Nat.max_zero, Nat.add_assoc]

/-- In lists a value becomes data as it does outside. -/
lemma asData_nested (n : Nat) (v : Value) : (nested n v).asData = nested n v.asData := by
  induction n with
  | zero => rfl
  | succ n ih => rw [nested, asData, itemsAsData, itemsAsData, ih, nested]

/-- In lists a value has the same integers. -/
lemma hasLongInteger_nested (n : Nat) (v : Value) :
    (nested n v).hasLongInteger = v.hasLongInteger := by
  induction n with
  | zero => rfl
  | succ n ih =>
    rw [← ih]
    exact Bool.or_false _

end Value

end Statechart
