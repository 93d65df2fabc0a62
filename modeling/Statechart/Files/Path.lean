import Statechart.Text.Basic

/-!
# Paths

A path names a file by the folders on the way to it, starting at the root or at the working
folder.  Empty parts and single dots say nothing and are dropped; two dots are kept, since what
they mean depends on the files.  Exactly two slashes at the start are kept as two, any other number
counts as one.
-/

namespace Statechart

/-- A path. -/
structure Path where
  /-- The slashes at the start. -/
  lead : Text
  /-- The parts between slashes. -/
  parts : List Text
  deriving DecidableEq, Inhabited

namespace Path

/-- The slashes that a path which starts with `count` slashes keeps. -/
def leadOf (count : Nat) : Text :=
  if count = 0 then [] else if count = 2 then ['/', '/'] else ['/']

/-- Whether a part says something. -/
def counts (part : Text) : Bool := part ≠ [] && part ≠ ['.']

/-- The path that a text writes. -/
def ofText (s : Text) : Path where
  lead := leadOf (s.takeWhile (· = '/')).length
  parts := (Text.pieces '/' s).filter counts

/-- The text of a path; a single dot stands for the working folder. -/
def text (p : Path) : Text :=
  match p.lead ++ List.intercalate ['/'] p.parts with
  | [] => ['.']
  | s => s

end Path

end Statechart
