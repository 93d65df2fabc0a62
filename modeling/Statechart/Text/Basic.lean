/-!
# Text

A text is a list of characters (Unicode scalar values).  This file holds the few operations on
texts that every other part of the library uses: reading past a fixed lead (`Text.past?`), the
leftmost place where a recogniser succeeds (`Text.leftmost`), cutting at a separator
(`Text.cut?`, `Text.pieces`) and the two normal forms of line ends (`Text.lines`,
`Text.unifyLineEnds`).

`past?_eq_some_iff` says that reading past a lead loses nothing.
-/

namespace Statechart

/-- A text is the list of its characters. -/
abbrev Text := List Char

namespace Text

/-- What follows `lead` in a text that starts with it. -/
def past? : Text → Text → Option Text
  | [], s => some s
  | _ :: _, [] => none
  | a :: lead, c :: s => if a = c then past? lead s else none

/-- A text can be read past `lead` exactly when it is `lead` followed by the rest. -/
theorem past?_eq_some_iff {lead s rest : Text} :
    past? lead s = some rest ↔ s = lead ++ rest := by
  induction lead generalizing s with
  | nil => simp [past?]
  | cons a lead ih =>
    cases s with
    | nil => simp [past?]
    | cons c s =>
      by_cases h : a = c
      · subst h; simp [past?, ih]
      · simp [past?, h, Ne.symm h]

/-- Reading past a lead that was just written gives back what follows it. -/
@[simp] theorem past?_append (lead rest : Text) : past? lead (lead ++ rest) = some rest :=
  past?_eq_some_iff.2 rfl

/-- The result of `f` at the first suffix of the text on which it succeeds. -/
def leftmost {α : Type} (f : Text → Option α) : Text → Option α
  | [] => f []
  | c :: s =>
    match f (c :: s) with
    | some a => some a
    | none => leftmost f s

/-- Whether `part` occurs somewhere in the text. -/
def occurs (part s : Text) : Bool := (leftmost (past? part) s).isSome

/-- The text before and after the first `sep`, if there is one. -/
def cut? (sep : Char) : Text → Option (Text × Text)
  | [] => none
  | c :: s =>
    if c = sep then some ([], s)
    else (cut? sep s).map fun p => (c :: p.1, p.2)

/-- The pieces of a text between its separators, as many as there are separators and one more. -/
def pieces (sep : Char) : Text → List Text
  | [] => [[]]
  | c :: s =>
    if c = sep then [] :: pieces sep s
    else
      match pieces sep s with
      | [] => [[c]]
      | p :: ps => (c :: p) :: ps

/-- A text always has at least one piece. -/
theorem pieces_ne_nil (sep : Char) (s : Text) : pieces sep s ≠ [] := by
  cases s with
  | nil => simp [pieces]
  | cons c s =>
    simp only [pieces]
    split
    · simp
    · split <;> simp

/-- The lines of a text; only a line feed ends a line. -/
def lines (s : Text) : List Text := pieces '\n' s

/-- A carriage return, alone or before a line feed, becomes a line feed. -/
def unifyLineEnds : Text → Text
  | [] => []
  | '\r' :: '\n' :: s => '\n' :: unifyLineEnds s
  | c :: s => (if c = '\r' then '\n' else c) :: unifyLineEnds s

end Text

end Statechart
