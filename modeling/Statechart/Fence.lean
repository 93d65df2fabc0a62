import Statechart.Text.Blank

/-!
# Diagram blocks in Markdown

A diagram stands in a fenced block whose opening fence carries the word `mermaid`.  Blanks
separate the body of the block from both fences.  The first opening tag that a blank follows
decides: the body starts at the first character after the tag that is not blank, and ends at the
first run of blanks with a fence right after it.  A block without a body holds no diagram.
-/

namespace Statechart.Fence

open Text

/-- The mark at either end of a block. -/
def fence : Text := ['`', '`', '`']

/-- The opening fence of a diagram block. -/
def tag : Text := fence ++ ['m', 'e', 'r', 'm', 'a', 'i', 'd']

/-- The text after an opening tag that starts here, provided that a blank follows the tag. -/
def opened? (s : Text) : Option Text :=
  match past? tag s with
  | some (c :: rest) => if isBlank c then some (trimStart rest) else none
  | _ => none

/-- The body up to the first run of blanks that a fence follows.  `body` is what has been read of
the body and `gap` the blanks read since, both in reverse. -/
def closed? (body gap : Text) : Text → Option Text
  | [] => none
  | c :: s =>
    if isBlank c then closed? body (c :: gap) s
    else if gap ≠ [] ∧ (past? fence (c :: s)).isSome then some body.reverse
    else closed? (c :: (gap ++ body)) [] s

/-- The diagram of a document, if it has one. -/
def diagram? (markdown : Text) : Option Text := (leftmost opened? markdown).bind (closed? [] [])

end Statechart.Fence
