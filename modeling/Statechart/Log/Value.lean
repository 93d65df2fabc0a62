import Statechart.Files.Path
import Statechart.Workflow

/-!
# Values in log records

The fields of a log record hold plain data, machines and a few other things.  `Value.toJson` is
the JSON that stands in the place of a value in a log line, if there is room for it: states,
workflows and compositions appear as their own JSON, and everything else that is not plain data as
its text.  `Value.display` is the text of a value inside a message, and `Value.literal` its text
inside another value.
-/

namespace Statechart

/-- A value in a log record. -/
inductive Value where
  /-- Nothing. -/
  | none
  /-- A truth value. -/
  | bool (b : Bool)
  /-- An integer. -/
  | int (i : Int)
  /-- A floating-point number. -/
  | double (x : Double)
  /-- A text. -/
  | text (s : Text)
  /-- A list of values. -/
  | list (items : List Value)
  /-- Named values in order. -/
  | table (fields : List (Text × Value))
  /-- A state. -/
  | state (s : State)
  /-- A workflow. -/
  | workflow (w : Workflow)
  /-- A composition of workflows. -/
  | composition (c : Composition)
  /-- A machine without an identifier. -/
  | machine (m : Machine)
  /-- A path in the file system. -/
  | path (p : Path)
  /-- A sequence of bytes. -/
  | bytes (bs : List UInt8)
  /-- The kind of a final state. -/
  | finalKind
  deriving Inhabited

namespace Value

/-- Texts with a separator between them. -/
def joined (separator : Text) (parts : List Text) : Text := List.intercalate separator parts

/-- The literal of a catalog of texts or of other values. -/
def catalogLiteral {α : Type} (literal : α → Text) (c : Catalog α) : Text :=
  '\x7b' :: joined [',', ' ']
    (c.entries.map fun e => Text.quoted e.1 ++ ':' :: ' ' :: literal e.2) ++ ['\x7d']

/-- The literal of the kind of a final state. -/
def finalKindLiteral : Text := "<StateType.FINAL: 'final'>".toList

/-- The literal of a state. -/
def stateLiteral (s : State) : Text :=
  "StateNode(on=".toList ++ catalogLiteral Text.quoted s.on ++ ", type=".toList ++
    (if s.isFinal then finalKindLiteral else "None".toList) ++ [')']

/-- The literal of a workflow. -/
def workflowLiteral (w : Workflow) : Text :=
  "WorkflowDescriptor(initial=".toList ++ Text.quoted w.initial ++ ", states=".toList ++
    catalogLiteral stateLiteral w.states ++ ", id=".toList ++ Text.quoted w.id ++ [')']

/-- The literal of a composition. -/
def compositionLiteral (c : Composition) : Text :=
  "ComposedWorkflow(states=".toList ++ catalogLiteral workflowLiteral c.regions ++
    ", id=".toList ++ Text.quoted c.id ++ ", type=".toList ++ Text.quoted c.kind ++ [')']

/-- The literal of a machine. -/
def machineLiteral (m : Machine) : Text :=
  "CompiledDiagram(states=".toList ++ catalogLiteral stateLiteral m.states ++
    ", initial=".toList ++ Text.quoted m.initial ++ [')']

mutual

/-- The text of a value inside another value. -/
def literal : Value → Text
  | .none => "None".toList
  | .bool b => if b then "True".toList else "False".toList
  | .int i => Digits.ofInt i
  | .double x => x.text
  | .text s => Text.quoted s
  | .list items => '[' :: joined [',', ' '] (literals items) ++ [']']
  | .table fields => '\x7b' :: joined [',', ' '] (fieldLiterals fields) ++ ['\x7d']
  | .state s => stateLiteral s
  | .workflow w => workflowLiteral w
  | .composition c => compositionLiteral c
  | .machine m => machineLiteral m
  | .path p => "PurePosixPath(".toList ++ Text.quoted p.text ++ [')']
  | .bytes bs => Text.quotedBytes bs
  | .finalKind => finalKindLiteral

/-- The literals of the items of a list. -/
def literals : List Value → List Text
  | [] => []
  | item :: items => literal item :: literals items

/-- The literals of named values. -/
def fieldLiterals : List (Text × Value) → List Text
  | [] => []
  | (name, value) :: fields =>
    (Text.quoted name ++ ':' :: ' ' :: literal value) :: fieldLiterals fields

end

/-- The text of a value inside a message. -/
def display : Value → Text
  | .text s => s
  | .path p => p.text
  | .finalKind => "StateType.FINAL".toList
  | v => literal v

mutual

/-- The JSON of a value in a log line. -/
def toJson : Value → Json
  | .none => .null
  | .bool b => .bool b
  | .int i => .int i
  | .double x => .double x
  | .text s => .text s
  | .list items => .array (itemsToJson items)
  | .table fields => .object (fieldsToJson fields)
  | .state s => s.toJson
  | .workflow w => w.toJson
  | .composition c => c.toJson
  | .machine m => .text (machineLiteral m)
  | .path p => .text p.text
  | .bytes bs => .text (Text.quotedBytes bs)
  | .finalKind => .text State.finalWord

/-- The JSON of the items of a list. -/
def itemsToJson : List Value → List Json
  | [] => []
  | item :: items => item.toJson :: itemsToJson items

/-- The JSON of named values. -/
def fieldsToJson : List (Text × Value) → List (Text × Json)
  | [] => []
  | (name, value) :: fields => (name, value.toJson) :: fieldsToJson fields

end

/-- Whether an integer in the value has too many digits to be written. -/
def hasLongInteger (v : Value) : Bool := v.toJson.hasLongInteger

mutual

/-- A JSON value as a value of a log record. -/
def ofJson : Json → Value
  | .null => .none
  | .bool b => .bool b
  | .int i => .int i
  | .double x => .double x
  | .text s => .text s
  | .array items => .list (itemsOfJson items)
  | .object fields => .table (fieldsOfJson fields)

/-- The items of an array as values. -/
def itemsOfJson : List Json → List Value
  | [] => []
  | item :: items => ofJson item :: itemsOfJson items

/-- The fields of an object as values. -/
def fieldsOfJson : List (Text × Json) → List (Text × Value)
  | [] => []
  | (name, value) :: fields => (name, ofJson value) :: fieldsOfJson fields

end

/-- Whether a value counts as something. -/
def isSomething : Value → Bool
  | .none => false
  | .bool b => b
  | .int i => i ≠ 0
  | .double (.finite _ m _) => m ≠ 0
  | .text s => !s.isEmpty
  | .list items => !items.isEmpty
  | .table fields => !fields.isEmpty
  | .bytes bs => !bs.isEmpty
  | _ => true

/-- What messages call the type of a value. -/
def typeName : Value → Text
  | .none => "NoneType".toList
  | .bool _ => "bool".toList
  | .int _ => "int".toList
  | .double _ => "float".toList
  | .text _ => "str".toList
  | .list _ => "list".toList
  | .table _ => "dict".toList
  | .state _ => "StateNode".toList
  | .workflow _ => "WorkflowDescriptor".toList
  | .composition _ => "ComposedWorkflow".toList
  | .machine _ => "CompiledDiagram".toList
  | .path _ => "PurePosixPath".toList
  | .bytes _ => "bytes".toList
  | .finalKind => "StateType".toList

end Value

end Statechart
