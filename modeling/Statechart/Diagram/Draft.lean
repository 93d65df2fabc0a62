import Statechart.Machine
import Statechart.Diagram.Statement

/-!
# From lines to a machine

The lines of a diagram are read one after the other.  A `Draft` is what they have said so far: the
states mentioned, in the order of their first mention, with their transitions, the states marked
as final, and the last initial state named.  `Draft.toMachine` closes it: a diagram that names no
initial state starts in its first state, and a diagram without states is said to start in `idle`.
-/

namespace Statechart

/-- What the lines read so far have said. -/
structure Draft where
  /-- The states mentioned, in the order of their first mention, and where each event leads. -/
  transitions : Catalog (Catalog Text) := ∅
  /-- The states marked as final. -/
  finals : List Text := []
  /-- The last initial state named. -/
  initial : Option Text := none
  deriving DecidableEq, Inhabited

namespace Draft

/-- Mention a state. -/
def mention (d : Draft) (name : Text) : Draft :=
  { d with transitions := d.transitions.ensure name ∅ }

/-- Let an event lead from one state to another. -/
def addTransition (d : Draft) (source target event : Text) : Draft :=
  let d := (d.mention source).mention target
  { d with transitions := d.transitions.revise source fun on => (on.getD ∅).insert event target }

/-- Mark a state as final. -/
def markFinal (d : Draft) (name : Text) : Draft :=
  let d := d.mention name
  { d with finals := d.finals.insert name }

/-- Take in one statement. -/
def add (d : Draft) : Statement → Draft
  | .initial name => mention { d with initial := some name } name
  | .transition source target event => d.addTransition source target event
  | .final name => d.markFinal name
  | .declaration name => d.mention name

/-- Read one line. -/
def readLine (d : Draft) (line : Text) : Draft := (Statement.ofLine? line).elim d d.add

/-- Read lines one after the other. -/
def ofLines (lines : List Text) : Draft := lines.foldl readLine {}

/-- The machine that has been described.  An empty name does not count as an initial state. -/
def toMachine (d : Draft) : Machine where
  states := d.transitions.mapWithName fun name on => { on, isFinal := name ∈ d.finals }
  initial := (d.initial.filter (· ≠ [])).getD (d.transitions.names.headD Machine.idle)

end Draft

namespace Machine

/-- The machine that a diagram describes. -/
def ofDiagram (diagram : Text) : Machine := (Draft.ofLines (Text.lines diagram)).toMachine

end Machine

end Statechart
