import Statechart.Log.Record
import Statechart.Text.Case

/-!
# The logging configuration

Records go as JSON lines to the streams for which there is a handler.  The root level says how
grave a record must be to be reported; the access log of the server has a level of its own, so
that it never reports anything below a warning.  Before the first configuration there is no
handler, and records from warnings on go to standard error as their bare message.

Configuring removes the handlers there are, adds one for the new stream, and then sets the levels;
an unknown level is found out only in between.
-/

namespace Statechart

/-- Where log lines go. -/
inductive Stream where
  /-- Standard error. -/
  | standardError
  /-- Another stream. -/
  | named (name : Text)
  deriving DecidableEq, Inhabited

/-- A record on its way: who reports it, how grave it is, and the record. -/
structure Report where
  /-- The logger that reports. -/
  logger : Text
  /-- The gravity of the record. -/
  level : Level
  /-- The record. -/
  record : Record
  deriving Inhabited

namespace Report

/-- A report of a message with further attributes. -/
def ofMessage (logger : Text) (level : Level) (message : Text)
    (attributes : List (Text × Value) := []) (created : Value := .int 0)
    (failure : Option Failure := none) : Report where
  logger
  level
  record :=
    { name := .text logger, levelName := .text level.name, message := .text message,
      created, failure, attributes := .ofList attributes }

end Report

/-- The logging configuration. -/
structure Logging where
  /-- The streams that the handlers write JSON lines to. -/
  handlers : List Stream := []
  /-- The least level that is reported. -/
  rootLevel : Level := Level.warning
  /-- The least level of the access log, unless it is zero. -/
  accessLevel : Level := 0
  deriving DecidableEq, Inhabited

namespace Logging

/-- The name of the access log. -/
def accessLog : Text := "uvicorn.access".toList

/-- A level name that is not known. -/
structure UnknownLevel where
  /-- The name in upper case. -/
  name : Text
  deriving DecidableEq, Inhabited

/-- The message about an unknown level. -/
def UnknownLevel.message (u : UnknownLevel) : Text :=
  "Unknown level: ".toList ++ Text.quoted u.name

/-- Take the handler for a stream away. -/
def removeHandler (l : Logging) (stream : Stream) : Logging :=
  { l with handlers := l.handlers.erase stream }

/-- Add a handler for a stream. -/
def addHandler (l : Logging) (stream : Stream) : Logging :=
  { l with handlers := l.handlers ++ [stream] }

/-- Send JSON lines to `stream` alone, from the level of the given name on. -/
def configure (l : Logging) (level : Text) (stream : Stream) : Logging × Option UnknownLevel :=
  let l := l.handlers.foldl removeHandler l
  let l := l.addHandler stream
  let name := Text.upper level
  match Level.ofName? name with
  | none => (l, some ⟨name⟩)
  | some n => ({ l with rootLevel := n, accessLevel := max n Level.warning }, none)

/-- The least level that a logger reports. -/
def leastLevel (l : Logging) (logger : Text) : Level :=
  let ofAccessLog := logger = accessLog ∨ (Text.past? (accessLog ++ ['.']) logger).isSome
  if ofAccessLog ∧ l.accessLevel ≠ 0 then l.accessLevel else l.rootLevel

/-- Whether a logger reports records of a level. -/
def reports (l : Logging) (logger : Text) (level : Level) : Bool :=
  0 < level && l.leastLevel logger ≤ level

/-- What a report writes and where: a line for each handler, as long as it can be written. -/
def written (l : Logging) (r : Report) : List (Stream × Text) :=
  if l.reports r.logger r.level then
    match l.handlers with
    | [] =>
      if Level.warning ≤ r.level then
        (r.record.givenMessage.toOption.map (Stream.standardError, ·)).toList
      else []
    | handlers => handlers.filterMap fun stream => r.record.line.toOption.map (stream, ·)
  else []

/-- What a list of reports writes, line by line. -/
def writtenAll (l : Logging) (reports : List Report) : List (Stream × Text) :=
  reports.flatMap l.written

end Logging

end Statechart
