import Statechart.Json.Printer
import Statechart.Log.Record

/-!
# Commands

The command line knows three commands: to print the workflow of a document, to print the diagram of
a document, and to put the workflows of several documents side by side.  A document is named by a
path, where a single dash stands for the standard input.

`Region.ofText?` reads a region: a name and a path with `=` between them.  `Indentation.layout`
gives the layout in which JSON is printed.
-/

namespace Statechart

/-- What is given as the indentation of JSON. -/
inductive Indentation where
  /-- A number of spaces. -/
  | spaces (n : Int)
  /-- Nothing: an end of options took the place of the number. -/
  | missing
  deriving DecidableEq, Inhabited

namespace Indentation

/-- The least number that is too great for a width. -/
def widthBound : Int := Nat.pow 2 63

/-- The least width for which there is not enough memory. -/
def memoryBound : Int := Nat.pow 2 47

/-- The layout of JSON with an indentation, which may be out of range. -/
def layout : Indentation → Except Failure Json.Layout
  | .missing =>
    .error ⟨"TypeError".toList, "can't multiply sequence by non-int of type 'list'".toList⟩
  | .spaces n =>
    if n < -widthBound ∨ widthBound ≤ n then
      .error ⟨"OverflowError".toList, "cannot fit 'int' into an index-sized integer".toList⟩
    else if memoryBound ≤ n then .error ⟨"MemoryError".toList, []⟩
    else .ok (.ofIndent (some n))

end Indentation

/-- A region of a composition: its name, and the path of the document that describes it. -/
structure Region where
  /-- The name. -/
  name : Text
  /-- The path. -/
  path : Text
  deriving DecidableEq, Inhabited

namespace Region

/-- The region that a text writes: the name and the path stand before and after the first `=`, and
neither is blank. -/
def ofText? (s : Text) : Option Region :=
  match Text.cut? '=' s with
  | none => none
  | some (name, path) =>
    let r : Region := ⟨Text.trim name, Text.trim path⟩
    if r.name = [] ∨ r.path = [] then none else some r

/-- The message about a text that writes no region. -/
def malformed (s : Text) : Text := "Expected NAME=PATH, got ".toList ++ Text.quoted s

end Region

/-- A command with its arguments. -/
inductive Command where
  /-- Print the workflow of a document. -/
  | compile (path : Text) (indentation : Option Indentation)
  /-- Print the diagram of a document. -/
  | extract (path : Text)
  /-- Print the composition of several documents. -/
  | compose (regions : List Text) (indentation : Option Indentation)
  deriving DecidableEq, Inhabited

namespace Command

/-- The path that stands for the standard input. -/
def inputPath : Text := ['-']

/-- The paths of the documents that a command reads. -/
def paths : Command → List Text
  | .compile path _ => [path]
  | .extract path => [path]
  | .compose regions _ => (regions.filterMap Region.ofText?).map Region.path

end Command

end Statechart
