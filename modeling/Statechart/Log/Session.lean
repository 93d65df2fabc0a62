import Statechart.Log.Notice

/-!
# Logging sessions

A session is a sequence of steps: the logging configuration is changed, a reporter submits a
record of its own, or the library gives notice of what it does.  `Logging.step` carries out one
step and `Logging.run` a list of them; each step says what it has written and whether it has been
refused.

A level has to be an integer.  Apart from that a record is looked at only if its logger reports
records of its level; so a refused attribute goes unnoticed below that level, and so does a level of
too many digits.  A record that cannot be written is passed over in silence, except that a lack of
room for it is passed on to the reporter.
-/

namespace Statechart

/-- A record that a reporter submits. -/
structure Submission where
  /-- The logger; without a name it is the root. -/
  logger : Text
  /-- The gravity, which may be any value. -/
  level : Value
  /-- The message, or a template for it. -/
  message : Text
  /-- The arguments of the template. -/
  arguments : List Value := []
  /-- The further attributes. -/
  attributes : List (Text × Value)
  /-- The failure that is reported. -/
  failure : Option Failure := none
  /-- The moment, in seconds. -/
  created : Value := .int 0
  /-- The room that is left for writing a line where the record is submitted. -/
  room : Room := {}
  deriving Inhabited

/-- The level of a submission, if it is an integer. -/
def Submission.level? (s : Submission) : Option Level :=
  match s.level with
  | .int level => some level
  | .bool b => some (if b then 1 else 0)
  | _ => none

/-- The name of the logger. -/
def Submission.loggerName (s : Submission) : Text :=
  if s.logger.isEmpty then "root".toList else s.logger

/-- The report of a submission at its level. -/
def Submission.report (s : Submission) (level : Level) : Report :=
  let report :=
    Report.ofMessage s.loggerName level s.message s.attributes s.created s.failure
  { report with
    record :=
      { report.record with
        levelName := .text (Level.nameOf s.level)
        arguments := Record.argumentsOfList s.arguments
        room := s.room } }

/-- The attribute that keeps a submission from becoming a record, if there is one. -/
def Submission.refusedAttribute? (s : Submission) : Option Text :=
  (s.attributes.find? fun e => !Record.accepts e.1).map Prod.fst

namespace Logging

/-- One step of a session. -/
inductive Step where
  /-- Change the configuration. -/
  | configure (level : Text) (stream : Stream)
  /-- Submit a record. -/
  | submit (s : Submission)
  /-- Give notice. -/
  | notify (notices : List Notice) (created : Value := .int 0)
  deriving Inhabited

/-- What is wrong with a level. -/
inductive LevelFault where
  /-- There is no level of this name. -/
  | unknown (u : UnknownLevel)
  /-- The level has too many digits to be written. -/
  | long
  deriving DecidableEq, Inhabited

/-- What a fault of a level says. -/
def LevelFault.message : LevelFault → Text
  | .unknown u => u.message
  | .long => Template.Fault.longInteger.message

/-- Why a step is refused. -/
inductive Refusal where
  /-- The level is none that can be used. -/
  | level (fault : LevelFault)
  /-- A record cannot have a further attribute of this name. -/
  | attribute (name : Text)
  /-- The level is no integer. -/
  | noLevel
  /-- There is no room for writing the line. -/
  | noRoom (shortage : Room.Shortage)
  deriving DecidableEq, Inhabited

/-- The message of a refusal. -/
def Refusal.message : Refusal → Text
  | .level fault => fault.message
  | .attribute name =>
    Text.quoted ("Attempt to overwrite ".toList ++ Text.quoted name ++ " in LogRecord".toList)
  | .noLevel => "level must be an integer".toList
  | .noRoom shortage => shortage.message

/-- What a step leads to. -/
structure Outcome where
  /-- The configuration after the step. -/
  logging : Logging
  /-- The lines that the step writes. -/
  written : List (Stream × Text) := []
  /-- Why the step was refused, if it was. -/
  refusal : Option Refusal := none
  deriving Inhabited

/-- What there is no room for in writing the line of a record to a handler. -/
def shortage? (l : Logging) (r : Record) : Option Room.Shortage :=
  match l.handlers, r.line with
  | _ :: _, .error (.value (.noRoom shortage)) => some shortage
  | _, _ => none

/-- Carry out one step. -/
def step (l : Logging) : Step → Outcome
  | .configure level stream =>
    let (l, unknown) := l.configure level stream
    { logging := l, refusal := unknown.map fun u => .level (.unknown u) }
  | .submit s =>
    match s.level? with
    | none => { logging := l, refusal := some .noLevel }
    | some level =>
      if l.reports (s.report level).logger level then
        if Digits.isLong level then { logging := l, refusal := some (.level .long) }
        else match s.refusedAttribute? with
        | some name => { logging := l, refusal := some (.attribute name) }
        | none =>
          { logging := l
            written := l.written (s.report level)
            refusal := (l.shortage? (s.report level).record).map .noRoom }
      else { logging := l }
  | .notify notices created =>
    { logging := l, written := l.writtenAll (notices.map (Notice.report created)) }

/-- Carry out steps one after the other, with the outcome of each. -/
def run (l : Logging) : List Step → List Outcome
  | [] => []
  | s :: steps =>
    let outcome := l.step s
    outcome :: run outcome.logging steps

end Logging

end Statechart
