import Statechart.Machine
import Statechart.Json.Printer

/-!
# Workflows as JSON

The JSON of a state shows its transitions and says `final` for a final state; a final state
without transitions shows only that it is final.  The JSON of a workflow or a composition shows
its identifier, its other fields and its states.

`StateView` is the other form of a state, in which both fields are always there and may be
`null`.  Leaving out what is `null` gives the first form again.
-/

namespace Statechart

namespace State

/-- The word for a final state. -/
def finalWord : Text := ['f', 'i', 'n', 'a', 'l']

/-- Transitions as a JSON object. -/
def transitionsJson (on : Catalog Text) : Json := .ofCatalog .text on

/-- The JSON of a state. -/
def toJson (s : State) : Json :=
  .object
    ((if !s.on.isEmpty || !s.isFinal then [(['o', 'n'], transitionsJson s.on)] else []) ++
      (if s.isFinal then [(['t', 'y', 'p', 'e'], .text finalWord)] else []))

end State

namespace Workflow

/-- States as a JSON object. -/
def statesJson (states : Catalog State) : Json := .ofCatalog State.toJson states

/-- The JSON of a workflow. -/
def toJson (w : Workflow) : Json :=
  .object
    [(['i', 'd'], .text w.id), ("initial".toList, .text w.initial),
      ("states".toList, statesJson w.states)]

end Workflow

namespace Composition

/-- The JSON of a composition. -/
def toJson (c : Composition) : Json :=
  .object
    [(['i', 'd'], .text c.id), ("type".toList, .text c.kind),
      ("states".toList, .ofCatalog Workflow.toJson c.regions)]

end Composition

/-- A state with fields that may be missing. -/
structure StateView where
  /-- The transitions, if they are shown. -/
  on : Option (Catalog Text) := none
  /-- The kind of the state, if it has one. -/
  kind : Option Text := none
  deriving DecidableEq, Inhabited

namespace StateView

/-- The view of a state: it shows the fields that the JSON of the state has. -/
def ofState (s : State) : StateView where
  on := if !s.on.isEmpty || !s.isFinal then some s.on else none
  kind := if s.isFinal then some State.finalWord else none

/-- Both fields, with `null` for a missing one. -/
def fields (v : StateView) : List (Text × Option Json) :=
  [(['o', 'n'], v.on.map State.transitionsJson), (['t', 'y', 'p', 'e'], v.kind.map .text)]

/-- The view with `null` for what is missing. -/
def toJson (v : StateView) : Json :=
  .object (v.fields.map fun f => (f.1, f.2.getD .null))

/-- The view without what is missing. -/
def toBriefJson (v : StateView) : Json :=
  .object (v.fields.filterMap fun f => f.2.map (f.1, ·))

end StateView

end Statechart
