import Statechart.Log.Moment
import Statechart.Log.Room
import Statechart.Log.Template

/-!
# Log records

A record says who reports what, when and how gravely.  Besides these fixed attributes it carries
further attributes given by the reporter.  `Record.line` writes a record as one line of JSON, in
which the further attributes stand together under `extra`; those whose names are reserved for the
record itself, or begin with an underscore, are left out.
-/

namespace Statechart

/-- A failure that a record reports. -/
structure Failure where
  /-- What kind of failure it is. -/
  kind : Text
  /-- What has failed. -/
  message : Text
  deriving DecidableEq, Inhabited

/-- The failure in one text. -/
def Failure.text (f : Failure) : Text :=
  if f.message.isEmpty then f.kind else f.kind ++ ':' :: ' ' :: f.message

/-- The gravity of a record, as a number. -/
abbrev Level := Int

namespace Level

/-- For details of interest to a developer. -/
def debug : Level := 10

/-- For what is worth knowing. -/
def info : Level := 20

/-- For what may turn out to be wrong. -/
def warning : Level := 30

/-- For what is wrong. -/
def error : Level := 40

/-- For what makes it impossible to go on. -/
def critical : Level := 50

/-- The name of a level. -/
def name (l : Level) : Text :=
  if l = critical then "CRITICAL".toList
  else if l = error then "ERROR".toList
  else if l = warning then "WARNING".toList
  else if l = info then "INFO".toList
  else if l = debug then "DEBUG".toList
  else if l = 0 then "NOTSET".toList
  else "Level ".toList ++ Digits.ofInt l

/-- The name of a level that any value gives.  A floating-point number without a fraction gives
the same level as the integer, if that has a name of its own. -/
def nameOf : Value → Text
  | .int l => name l
  | .double x =>
    match [critical, error, warning, info, debug, 0].find? fun l => Double.ofInt l = x with
    | some l => name l
    | none => "Level ".toList ++ x.text
  | .bool false => name 0
  | v => "Level ".toList ++ v.display

/-- The levels by name, where some have two names. -/
def named : List (Text × Level) :=
  [("CRITICAL".toList, critical), ("FATAL".toList, critical), ("ERROR".toList, error),
    ("WARN".toList, warning), ("WARNING".toList, warning), ("INFO".toList, info),
    ("DEBUG".toList, debug), ("NOTSET".toList, 0)]

/-- The level of a name. -/
def ofName? (s : Text) : Option Level := named.lookup s

end Level

/-- A log record. -/
structure Record where
  /-- The logger that reports. -/
  name : Value
  /-- The name of the level. -/
  levelName : Value
  /-- The message, or a template for it. -/
  message : Value
  /-- The arguments of the template. -/
  arguments : Option Template.Arguments := none
  /-- The moment, in seconds. -/
  created : Value := .int 0
  /-- The failure that is reported. -/
  failure : Option Failure := none
  /-- A value in the place of a failure, which cannot be reported as one. -/
  falseFailure : Option Value := none
  /-- The further attributes, in the order in which they were given. -/
  attributes : Catalog Value := ∅
  /-- The block of the stand-ins for halves of surrogate pairs. -/
  halves : Halves.Block := default
  /-- The room for writing it. -/
  room : Room := {}
  deriving Inhabited

namespace Record

/-- The names under which a line shows no further attribute. -/
def reserved : List Text :=
  ["args", "asctime", "created", "exc_info", "exc_text", "filename", "funcName", "levelname",
    "levelno", "lineno", "module", "msecs", "message", "msg", "name", "pathname", "process",
    "processName", "relativeCreated", "stack_info", "taskName", "thread", "threadName"].map
    String.toList

/-- The names of the attributes that a record has of itself. -/
def ownAttributes : List Text :=
  ["name", "msg", "args", "levelname", "levelno", "pathname", "filename", "module", "exc_info",
    "exc_text", "stack_info", "lineno", "funcName", "created", "msecs", "relativeCreated",
    "thread", "threadName", "processName", "process"].map String.toList

/-- The names of the attributes that a record gets when it is written. -/
def laterAttributes : List Text := ["message", "asctime"].map String.toList

/-- Whether a reporter may give an attribute of this name: not if the record has it of itself, or
gets it later. -/
def accepts (name : Text) : Bool := !(laterAttributes.contains name || ownAttributes.contains name)

/-- The arguments that a value stands for. -/
def argumentsOf (v : Value) : Option Template.Arguments :=
  if v.isSomething then some (.single v) else none

/-- The arguments that a list of values stands for: a single table that is not empty is the table
of the named arguments. -/
def argumentsOfList : List Value → Option Template.Arguments
  | [] => none
  | [.table (f :: fields)] => some (.single (.table (f :: fields)))
  | values => some (.several values)

/-- Give a record an attribute, which replaces the one it may have under that name. -/
def withAttribute (r : Record) (name : Text) (v : Value) : Record :=
  if name = "name".toList then { r with name := v }
  else if name = "levelname".toList then { r with levelName := v }
  else if name = "msg".toList then { r with message := v }
  else if name = "args".toList then { r with arguments := argumentsOf v }
  else if name = "created".toList then { r with created := v }
  else if name = "exc_info".toList then
    { r with failure := none, falseFailure := if v.isSomething then some v else none }
  else { r with attributes := r.attributes.insert name v }

/-- Give a record attributes in order. -/
def withAttributes (r : Record) (attributes : List (Text × Value)) : Record :=
  attributes.foldl (fun r e => r.withAttribute e.1 e.2) r

/-- Whether a line shows a further attribute of this name. -/
def shows (name : Text) : Bool := !(reserved.contains name || name.head? == some '_')

/-- The further attributes that a line shows. -/
def extra (r : Record) : List (Text × Value) := r.attributes.entries.filter fun e => shows e.1

/-- Why a record cannot be written. -/
inductive Fault where
  /-- Its moment cannot be written. -/
  | moment (fault : Moment.Fault)
  /-- Its message cannot be filled in. -/
  | message (fault : Template.Fault)
  /-- A value that it shows cannot be written. -/
  | value (fault : Value.Fault)
  /-- An attribute stands in the place of what gives the message. -/
  | noMessage (type : Text)
  /-- In the place of a failure stands a value of a type that has no parts. -/
  | noParts (type : Text)
  /-- In the place of a failure stands a value of too few parts, which is a list, a text or
  bytes. -/
  | fewParts (value : Value)
  /-- In the place of a failure stands a table. -/
  | noPartZero
  /-- In the place of a failure stands a value whose first part does not say what kind of failure it
  is. -/
  | noKind (type : Text)
  deriving Inhabited

/-- The attribute that gives the message of a record. -/
def messageGiver : Text := "getMessage".toList

/-- What is wrong with a value in the place of a failure. -/
def faultOfFalseFailure : Value → Fault
  | .table _ => .noPartZero
  | .list (first :: _ :: _) => .noKind first.typeName
  | .bytes (_ :: _ :: _) => .noKind (Value.int 0).typeName
  | .text (_ :: _ :: _) => .noKind (Value.text []).typeName
  | .list items => .fewParts (.list items)
  | .bytes bs => .fewParts (.bytes bs)
  | .text s => .fewParts (.text s)
  | v => .noParts v.typeName

/-- What a fault says. -/
def Fault.explain : Fault → Text
  | .moment fault => fault.message
  | .message fault => fault.message
  | .value (.noRoom shortage) => shortage.message
  | .value .longInteger => Template.Fault.longInteger.message
  | .noMessage type => '\'' :: type ++ "' object is not callable".toList
  | .noParts type => '\'' :: type ++ "' object is not subscriptable".toList
  | .fewParts (.list _) => "list index out of range".toList
  | .fewParts (.text _) => "string index out of range".toList
  | .fewParts _ => "index out of range".toList
  | .noPartZero => ['0']
  | .noKind type => '\'' :: type ++ "' object has no attribute '__name__'".toList

/-- The message of a record with its arguments filled in. -/
def messageText (r : Record) : Except Template.Fault Text := do
  let message := (← Template.writable r.message).display
  match r.arguments with
  | none => return message
  | some arguments => Template.fillIn r.halves message arguments

/-- The message of a record, unless an attribute stands in the place of what gives it. -/
def givenMessage (r : Record) : Except Fault Text :=
  match r.attributes.get? messageGiver with
  | some v => .error (.noMessage v.typeName)
  | none => r.messageText.mapError .message

/-- What the line of a record shows, given its moment and its message. -/
def payload (r : Record) (moment message : Text) : Value :=
  .table
    ([("timestamp".toList, .text moment), ("level".toList, r.levelName), ("logger".toList, r.name),
        ("message".toList, .text message)] ++
      (if r.extra.isEmpty then [] else [("extra".toList, .table r.extra)]) ++
      (match r.failure with
        | none => []
        | some failure => [("exception".toList, .text failure.text)]))

/-- The JSON of a record, given its moment and its message. -/
def toJson (r : Record) (moment message : Text) : Json := (r.payload moment message).toJson

/-- The line of a record. -/
def line (r : Record) : Except Fault Text := do
  let moment ← (Moment.ofValue r.created >>= Moment.text).mapError .moment
  let message ← r.givenMessage
  if let some v := r.falseFailure then throw (faultOfFalseFailure v)
  if let some fault := (r.payload moment message).fault? r.room r.room.levels then
    throw (.value fault)
  return (r.toJson moment message).write .spaced

end Record

end Statechart
