import Statechart.Diagram.Draft
import Statechart.Fence

/-!
# Documents

A document is a Markdown text.  If its diagram block holds a state diagram, the document describes
the machine of this diagram; if not, the default workflow takes its place.  `Document.describes`
says which of these is the case, and `Document.workflow` gives the workflow.

Whether a diagram is a state diagram is decided by a look at its words, before anything is read:
`Document.looksLikeStateDiagram`.
-/

namespace Statechart.Document

open Text

/-- The word in the header of a state diagram. -/
def keyword : Text := "stateDiagram".toList

/-- Whether an initial marker starts here: the outside, blanks and an arrow. -/
def startsInitialMarker (s : Text) : Bool :=
  match past? Statement.outside s with
  | some rest => (past? Statement.arrow (trimStart rest)).isSome
  | none => false

/-- Whether a text looks like a state diagram: it holds the keyword or an initial marker. -/
def looksLikeStateDiagram (s : Text) : Bool :=
  occurs keyword s ||
    (leftmost (fun s => if startsInitialMarker s then some () else none) s).isSome

/-- What a document describes. -/
inductive Content where
  /-- It has no diagram. -/
  | nothing
  /-- Its diagram is of another kind and has this many characters. -/
  | otherDiagram (length : Nat)
  /-- Its diagram describes a machine. -/
  | machine (m : Machine)
  deriving DecidableEq, Inhabited

/-- What a document describes. -/
def describes (markdown : Text) : Content :=
  match Fence.diagram? markdown with
  | none => .nothing
  | some diagram =>
    if looksLikeStateDiagram diagram then .machine (.ofDiagram diagram)
    else .otherDiagram diagram.length

/-- The workflow of what is described. -/
def Content.workflow : Content → Workflow
  | .machine m => { m with }
  | _ => .default

/-- The workflow of a document. -/
def workflow (markdown : Text) : Workflow := (describes markdown).workflow

end Statechart.Document
