import Statechart.Text.Blank
import Statechart.Text.Case

/-!
# Statements of a diagram

A state diagram is read line by line.  A line says one of four things, tried in this order:

1. `[*] --> Name`: the machine starts in `Name`;
2. `Source --> Target : Event`: `Event` leads from `Source` to `Target`;
3. `Name --> [*]`: the machine may end in `Name`;
4. `state "Label" as Name`, or `state Name`: there is a state `Name`.

What is recognised may stand anywhere in the line, and the leftmost place counts.  Blank lines,
comments (`%`) and lines that fit no rule say nothing.  `Statement.ofLine?` reads a line.

A name is a maximal run of word characters, except that names after an arrow or after `state`
only have to be maximal to the right.
-/

namespace Statechart

/-- What a line of a diagram says. -/
inductive Statement where
  /-- The machine starts in this state. -/
  | initial (name : Text)
  /-- The event leads from one state to another. -/
  | transition (source target event : Text)
  /-- The machine may end in this state. -/
  | final (name : Text)
  /-- There is such a state. -/
  | declaration (name : Text)
  deriving DecidableEq, Inhabited

namespace Statement

open Text

/-- The arrow between the two ends of a transition. -/
def arrow : Text := ['-', '-', '>']

/-- The marker that stands for the outside of the machine. -/
def outside : Text := ['[', '*', ']']

/-- The word that opens a declaration. -/
def declares : Text := ['s', 't', 'a', 't', 'e']

/-- The word between a label and its name. -/
def «as» : Text := ['a', 's']

/-- The event of a transition without a label: `TO_` and the target in upper case. -/
def unlabelledEvent (target : Text) : Text := 'T' :: 'O' :: '_' :: upper target

/-- The text after an arrow, with the blanks on both sides of it left out. -/
def pastArrow? (s : Text) : Option Text := (past? arrow (skipAsciiBlanks s)).map skipAsciiBlanks

/-- An initial marker that starts here: the name after its arrow. -/
def initialAt? (s : Text) : Option Text := do
  let (name, _) ← (← pastArrow? (← past? outside s)) |> word?
  return name

/-- The label after the target of a transition: what follows a colon, if anything does. -/
def label? (s : Text) : Option Text :=
  match past? [':'] (skipAsciiBlanks s) with
  | some (c :: rest) => some (c :: rest)
  | _ => none

/-- A transition out of `source`, from the text after its name. -/
def transitionFrom? (source rest : Text) : Option Statement := do
  let (target, rest) ← word? (← pastArrow? rest)
  let event := trim ((label? rest).getD [])
  return .transition source target (if event = [] then unlabelledEvent target else event)

/-- A final marker after `name`, from the text after the name. -/
def finalFrom? (name rest : Text) : Option Statement := do
  let _ ← past? outside (← pastArrow? rest)
  return .final name

/-- The text after at least one ASCII blank and all that follow it. -/
def pastBlanks? : Text → Option Text
  | [] => none
  | c :: s => if isAsciiBlank c then some (skipAsciiBlanks s) else none

/-- The text after a quoted label, `as` and the blanks behind both, from the text after the opening
quote.  The label may not be empty. -/
def pastAlias? (quoted : Text) : Option Text := do
  let (label, rest) ← cut? '"' quoted
  if label = [] then none else pastBlanks? (← past? «as» (← pastBlanks? rest))

/-- The text after a label with its `as`, if a quote opens one. -/
def pastLabel? : Text → Option Text
  | '"' :: quoted => pastAlias? quoted
  | rest => some rest

/-- What stands after `state`: a name, or a quoted label, `as` and a name. -/
def declaredName? (s : Text) : Option Text := do
  let (name, _) ← word? (← pastLabel? (← pastBlanks? s))
  return name

/-- A declaration that starts here: its name. -/
def declarationAt? (s : Text) : Option Text := (past? declares s).bind declaredName?

/-- The first result of `f` on the words of the text, where `f` is given a word and what follows
it.  `inside` says whether the character before the text belongs to a word. -/
def leftmostWord {α : Type} (f : Text → Text → Option α) (inside : Bool) : Text → Option α
  | [] => none
  | c :: s =>
    if isWordChar c then
      match (if inside then none else (word? (c :: s)).bind fun (w, rest) => f w rest) with
      | some a => some a
      | none => leftmostWord f true s
    else leftmostWord f false s

/-- The first rule. -/
def initial? (s : Text) : Option Statement := (leftmost initialAt? s).map .initial

/-- The second rule. -/
def transition? (s : Text) : Option Statement := leftmostWord transitionFrom? false s

/-- The third rule. -/
def final? (s : Text) : Option Statement := leftmostWord finalFrom? false s

/-- The fourth rule. -/
def declaration? (s : Text) : Option Statement := (leftmost declarationAt? s).map .declaration

/-- The rules in the order in which they are tried, each with a mark that a line must hold for the
rule to be tried on it. -/
def rules : List (Text × (Text → Option Statement)) :=
  [(arrow, initial?), (arrow, transition?), (arrow, final?), (declares, declaration?)]

/-- What a trimmed line says, by the first rule that fits. -/
def ofTrimmed? (s : Text) : Option Statement :=
  rules.findSome? fun (mark, rule) => if occurs mark s then rule s else none

/-- What a line says. -/
def ofLine? (line : Text) : Option Statement :=
  match trim line with
  | [] => none
  | c :: s => if c = '%' then none else ofTrimmed? (c :: s)

end Statement

end Statechart
