import Statechart.Catalog

/-!
# Machines

A `Machine` is a finite-state machine as a diagram describes it: its states in order, each with
its outgoing transitions in order, and the state it starts in.  A `Workflow` is a machine with an
identifier; a `Composition` runs several workflows side by side, one per region.

Nothing here says that the targets of transitions are states of the machine: a machine may be
given by hand.  Machines read from diagrams do have this property.
-/

namespace Statechart

/-- A state: where each event leads, and whether the machine may end here. -/
structure State where
  /-- The target of each event. -/
  on : Catalog Text := ∅
  /-- Whether the state is a final one. -/
  isFinal : Bool := false
  deriving DecidableEq, Inhabited

/-- States by name, and the name of the state to start in. -/
structure Machine where
  /-- The states in order. -/
  states : Catalog State
  /-- The state to start in. -/
  initial : Text
  deriving DecidableEq, Inhabited

namespace Machine

/-- The state that a machine without states is said to start in. -/
def idle : Text := "idle".toList

end Machine

/-- A machine with an identifier. -/
structure Workflow extends Machine where
  /-- The identifier. -/
  id : Text := "workflow".toList
  deriving DecidableEq, Inhabited

namespace Workflow

/-- The workflow of a document that describes none: an order is received, processed, and then
completed or failed. -/
def default : Workflow where
  initial := Machine.idle
  states := .ofList
    [("idle".toList,
        { on := .ofList [("ORDER_RECEIVED".toList, "processing".toList)] }),
      ("processing".toList,
        { on := .ofList
            [("COMPLETED".toList, "completed".toList), ("FAILED".toList, "failed".toList)] }),
      ("completed".toList, { isFinal := true }),
      ("failed".toList, { isFinal := true })]

end Workflow

/-- Workflows side by side, each in a region of its own. -/
structure Composition where
  /-- The workflow of each region, in order. -/
  regions : Catalog Workflow
  /-- The identifier. -/
  id : Text := "composedWorkflow".toList
  /-- How the regions run. -/
  kind : Text := "parallel".toList
  deriving DecidableEq, Inhabited

end Statechart
