import Statechart.Document
import Statechart.Log.Logger

/-!
# Notices

What the library itself has to report while it works.  A `Notice` is one such event;
`Notice.report` gives it its logger, its gravity, its words and its attributes.
-/

namespace Statechart

/-- An event worth reporting. -/
inductive Notice where
  /-- A diagram has been read as a machine. -/
  | compiled (m : Machine)
  /-- A workflow has been made from a document. -/
  | built (w : Workflow)
  /-- A document has no diagram, so the default workflow is used. -/
  | noDiagram
  /-- The diagram of a document is of another kind, so the default workflow is used. -/
  | otherDiagram (length : Nat)
  /-- The service has answered with a workflow. -/
  | served (w : Workflow)
  /-- Workflows have been put side by side in these regions. -/
  | composed (regions : List Text)
  /-- The document at this path has no diagram to show. -/
  | nothingToExtract (path : Text)
  /-- A document could not be read. -/
  | unreadable (failure : Failure)
  /-- A command has failed for another reason. -/
  | failed (failure : Failure)
  /-- A line of the dotenv file cannot be read. -/
  | unreadableSetting (number : Nat)
  deriving Inhabited

namespace Notice

/-- The logger of what concerns diagrams. -/
def diagramLog : Text := "mermaid_workflow.workflow.compiler".toList

/-- The logger of what concerns documents. -/
def documentLog : Text := "mermaid_workflow.workflow.builder".toList

/-- The logger of the command line. -/
def commandLog : Text := "mermaid_workflow.main".toList

/-- The logger of the service. -/
def serviceLog : Text := "mermaid_workflow.server.app".toList

/-- The logger of the dotenv file. -/
def dotenvLog : Text := "dotenv.main".toList

/-- The number of states of a machine. -/
def stateCount (m : Machine) : Value := .int m.states.size

/-- The report of a notice. -/
def report (created : Value) : Notice → Report
  | .compiled m =>
    .ofMessage diagramLog Level.debug "Compiled state diagram".toList
      [("state_count".toList, stateCount m), ("initial".toList, .text m.initial)] created
  | .built w =>
    .ofMessage documentLog Level.debug "Built workflow".toList
      [("workflow".toList, .workflow w)] created
  | .noDiagram =>
    .ofMessage documentLog Level.info "No mermaid diagram found; using default workflow".toList
      [] created
  | .otherDiagram length =>
    .ofMessage documentLog Level.info
      "Mermaid diagram is not a state diagram; using default workflow".toList
      [("diagram_length".toList, .int length)] created
  | .served w =>
    .ofMessage serviceLog Level.info "Compiled workflow".toList
      [("initial".toList, .text w.initial), ("state_count".toList, stateCount w.toMachine)]
      created
  | .composed regions =>
    .ofMessage commandLog Level.info "Composed workflows".toList
      [("regions".toList, .list (regions.map .text))] created
  | .nothingToExtract path =>
    .ofMessage commandLog Level.warning "No mermaid diagram found".toList
      [("path".toList, .text path)] created
  | .unreadable failure =>
    .ofMessage commandLog Level.error "Could not read input document".toList [] created
      (some failure)
  | .failed failure =>
    .ofMessage commandLog Level.error "Command failed".toList [] created (some failure)
  | .unreadableSetting number =>
    .ofMessage dotenvLog Level.warning
      ("python-dotenv could not parse statement starting at line ".toList ++ Digits.ofNat number)
      [] created

end Notice

/-- What is worth reporting about the content of a document. -/
def Document.Content.notices : Document.Content → List Notice
  | .nothing => [.noDiagram]
  | .otherDiagram length => [.otherDiagram length]
  | .machine m => [.compiled m, .built (Content.machine m).workflow]

/-- What is worth reporting when the workflow of a document is made. -/
def Document.notices (markdown : Text) : List Notice := (Document.describes markdown).notices

end Statechart
