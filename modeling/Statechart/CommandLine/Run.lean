import Statechart.CommandLine.Usage
import Statechart.Log.Notice
import Statechart.Settings.Basic

/-!
# Running a command

`CommandLine.run` carries out what the arguments say on a host: it gives the exit code, what is
printed on standard output and what is printed on standard error.  Log records and plain messages
go to standard error in the order in which they arise.

The arguments are read first, then the settings, then the documents.  The regions of a composition
are checked before any document is read.  Standard input can be read only once; whoever reads it
again finds it empty.
-/

namespace Statechart.CommandLine

/-- Something that goes to standard error. -/
inductive Entry where
  /-- A notice, which goes into the log. -/
  | notice (n : Notice)
  /-- A message, which is printed as it is. -/
  | message (s : Text)
  deriving Inhabited

/-- What a command does. -/
structure Effect where
  /-- The exit code. -/
  exit : Nat
  /-- What it prints on standard output. -/
  output : Text := []
  /-- What it has to say on standard error. -/
  entries : List Entry := []
  deriving Inhabited

/-- What a run ends in. -/
structure Outcome where
  /-- The exit code. -/
  exit : Nat
  /-- What is printed on standard output. -/
  output : Text := []
  /-- What is printed on standard error. -/
  errors : Text := []
  deriving DecidableEq, Inhabited

/-! ### Documents -/

/-- Read the document at a path, when `input` is left of the standard input; the second part of
the result is what is left afterwards. -/
def readDocument (h : Host) (input : List UInt8) (path : Text) :
    Except ReadFault Text × List UInt8 :=
  if path = Command.inputPath then (Document.ofBytes input, []) else (h.read path, input)

/-- The notice of a document that cannot be read. -/
def notRead (fault : ReadFault) : Notice :=
  if fault.isObstacle then .unreadable fault.failure else .failed fault.failure

/-- The notices of documents that have been read. -/
def entriesOf (markdown : Text) : List Entry := (Document.notices markdown).map .notice

/-- Read the documents of regions in order and enter their workflows, up to the first document
that cannot be read. -/
def readRegions (h : Host) (input : List UInt8) (found : Catalog Workflow) :
    List Region → List Entry × Except ReadFault (Catalog Workflow)
  | [] => ([], .ok found)
  | r :: regions =>
    match readDocument h input r.path with
    | (.error fault, _) => ([], .error fault)
    | (.ok markdown, input) =>
      let (entries, result) :=
        readRegions h input (found.insert r.name (Document.workflow markdown)) regions
      (entriesOf markdown ++ entries, result)

/-! ### Commands -/

/-- End with a notice of what went wrong. -/
def failing (entries : List Entry) (n : Notice) : Effect where
  exit := 1
  entries := entries ++ [.notice n]

/-- Print JSON in the layout of an indentation. -/
def printing (entries : List Entry) (indentation : Indentation) (j : Json) : Effect :=
  match indentation.layout with
  | .error f => failing entries (.failed f)
  | .ok layout => { exit := 0, output := j.write layout ++ ['\n'], entries }

/-- The regions that all texts write, or the first text that writes none. -/
def regionsOf : List Text → Except Text (List Region)
  | [] => .ok []
  | s :: rest =>
    match Region.ofText? s with
    | none => .error s
    | some r => (regionsOf rest).map (r :: ·)

/-- What a command does on a host with the given settings. -/
def effect (h : Host) (settings : Settings) : Command → Effect
  | .compile path indentation =>
    match (readDocument h h.input path).1 with
    | .error fault => failing [] (notRead fault)
    | .ok markdown =>
      printing (entriesOf markdown) (indentation.getD (.spaces settings.indent))
        (Document.workflow markdown).toJson
  | .extract path =>
    match (readDocument h h.input path).1 with
    | .error fault => failing [] (notRead fault)
    | .ok markdown =>
      match Fence.diagram? markdown with
      | some diagram => { exit := 0, output := diagram ++ ['\n'] }
      | none =>
        { exit := 1
          entries :=
            [.notice (.nothingToExtract path), .message "No mermaid diagram found".toList] }
  | .compose regions indentation =>
    match regionsOf regions with
    | .error s => { exit := 2, entries := [.message (Region.malformed s)] }
    | .ok regions =>
      match readRegions h h.input ∅ regions with
      | (entries, .error fault) => failing entries (notRead fault)
      | (entries, .ok workflows) =>
        let composition : Composition := { regions := workflows }
        printing (entries ++ [.notice (.composed workflows.names)])
          (indentation.getD (.spaces settings.indent)) composition.toJson

/-! ### Runs -/

/-- The lines of entries on standard error. -/
def errorLines (h : Host) (l : Logging) (entries : List Entry) : List Text :=
  entries.flatMap fun
    | .notice n => (l.written (n.report h.now)).map Prod.snd
    | .message s => [s]

/-- Lines in one text. -/
def linesText (lines : List Text) : Text := lines.flatMap (· ++ ['\n'])

/-- What is said about the lines of the dotenv file that cannot be read. -/
def dotenvEntries (lines : List Dotenv.Line) : List Entry :=
  (Dotenv.unreadable lines).map fun number => .notice (.unreadableSetting number)

/-- The first line of the report about wrong settings. -/
def settingsHeading : Text := "Configuration error (check your environment or .env):".toList

/-- Run a command on a host. -/
def runCommand (h : Host) (c : Command) : Except ReadFault Outcome := do
  let lines ← h.dotenvLines
  let early := errorLines h {} (dotenvEntries lines)
  match Settings.ofSources (h.sources lines) with
  | .error faults =>
    return { exit := 2, errors := linesText (early ++ [settingsHeading, Settings.report faults]) }
  | .ok settings =>
    let (logging, _) := ({} : Logging).configure settings.logLevel .standardError
    let e := effect h settings c
    return { exit := e.exit, output := e.output,
             errors := linesText (early ++ errorLines h logging e.entries) }

/-- Do what the arguments say on a host.  The only fault that is not part of the outcome is a
dotenv file that cannot be read. -/
def run (h : Host) (arguments : List Text) : Except ReadFault Outcome :=
  match Command.ofArguments arguments with
  | .ok c => runCommand h c
  | .error (.help place) => .ok { exit := 0, output := place.help }
  | .error .version => .ok { exit := 0, output := versionLine }
  | .error (.fault place f) => .ok { exit := 2, errors := f.report place }

end Statechart.CommandLine
