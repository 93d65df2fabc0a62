import Statechart.Diagram.Draft
import Statechart.Proofs.Catalog.Laws

/-!
# What a statement does to a draft

A draft is seen through four views: the names of its states in order, the transitions out of a state
(`Draft.on`, empty for a state that is not there), the states marked as final and the initial state.
This file says what each operation on drafts does to them; nothing else about the operations is
used later.

The order of first mention is the order that `List.eraseDups` keeps, which drops every item that
occurs further to the left as well.
-/

namespace Statechart

/-- Dropping repeated items from left to right, a new item at the end is kept if it is new. -/
lemma eraseDups_concat (l : List Text) (a : Text) :
    (l ++ [a]).eraseDups = if a ∈ l then l.eraseDups else l.eraseDups ++ [a] := by
  rw [List.eraseDups_append]
  by_cases h : a ∈ l
  · simp [h, List.removeAll]
  · simp [h, List.removeAll, List.eraseDups_cons]

namespace Draft

variable (d : Draft)

/-- The names of the states in the order of their first mention. -/
def names : List Text := d.transitions.names

/-- The transitions out of a state. -/
def on (name : Text) : Catalog Text := (d.transitions.get? name).getD ∅

variable {d}

/-! ### Mentioning a state -/

/-- A state that is mentioned goes to the end if it is new. -/
lemma names_mention (name : Text) :
    (d.mention name).names = if name ∈ d.names then d.names else d.names ++ [name] :=
  Catalog.names_ensure d.transitions name ∅

/-- The states of a draft are those it had and the one that is mentioned. -/
lemma mem_names_mention {name other : Text} :
    other ∈ (d.mention name).names ↔ other ∈ d.names ∨ other = name :=
  Catalog.mem_names_revise

/-- Mentioning a state adds no transition. -/
@[simp] lemma on_mention (name : Text) : (d.mention name).on = d.on := by
  funext other
  unfold on mention
  rw [Catalog.get?_ensure]
  by_cases h : other = name
  · subst h; simp
  · rw [if_neg h]

@[simp] lemma finals_mention (name : Text) : (d.mention name).finals = d.finals := rfl

@[simp] lemma initial_mention (name : Text) : (d.mention name).initial = d.initial := rfl

/-! ### Adding a transition -/

section

variable (source target event : Text)

/-- A transition mentions its source and then its target. -/
lemma names_addTransition :
    (d.addTransition source target event).names = ((d.mention source).mention target).names := by
  change (Catalog.revise _ source _).names = _
  rw [Catalog.names_revise, if_pos]
  · rfl
  · exact mem_names_mention.mpr (.inl (mem_names_mention.mpr (.inr rfl)))

/-- A transition is inserted among those out of its source, and no other state changes. -/
lemma on_addTransition (name : Text) :
    (d.addTransition source target event).on name =
      if name = source then (d.on source).insert event target else d.on name := by
  have hmention : ((d.mention source).mention target).on = d.on := by rw [on_mention, on_mention]
  change ((Catalog.revise _ source _).get? name).getD ∅ = _
  rw [Catalog.get?_revise]
  by_cases h : name = source
  · rw [if_pos h, if_pos h, Option.getD_some]
    exact congrArg (Catalog.insert · event target) (congrFun hmention source)
  · rw [if_neg h, if_neg h]
    exact congrFun hmention name

@[simp] lemma finals_addTransition : (d.addTransition source target event).finals = d.finals := rfl

@[simp] lemma initial_addTransition : (d.addTransition source target event).initial = d.initial :=
  rfl

end

/-! ### Marking a state as final -/

@[simp] lemma on_markFinal (name : Text) : (d.markFinal name).on = d.on := on_mention name

/-- The final states are those that were final and the one that is marked. -/
lemma mem_finals_markFinal {name other : Text} :
    other ∈ (d.markFinal name).finals ↔ other = name ∨ other ∈ d.finals :=
  List.mem_insert_iff

@[simp] lemma initial_markFinal (name : Text) : (d.markFinal name).initial = d.initial := rfl

/-! ### Closing a draft -/

/-- A machine has the states of its draft. -/
lemma names_toMachine : d.toMachine.states.names = d.names :=
  Catalog.names_mapWithName _ d.transitions

/-- A state of the machine has the transitions and the mark that the draft gives it. -/
lemma get?_toMachine_eq_some_iff {name : Text} {state : State} :
    d.toMachine.states.get? name = some state ↔
      name ∈ d.names ∧ state = { on := d.on name, isFinal := name ∈ d.finals } := by
  change (Catalog.mapWithName _ _).get? name = some state ↔ _
  rw [Catalog.get?_mapWithName, Option.map_eq_some_iff]
  constructor
  · rintro ⟨on, hon, rfl⟩
    refine ⟨Catalog.mem_names_of_get?_eq_some hon, ?_⟩
    rw [Draft.on, hon, Option.getD_some]
  · rintro ⟨hname, rfl⟩
    obtain ⟨on, hon⟩ := Catalog.exists_get?_eq_some hname
    refine ⟨on, hon, ?_⟩
    rw [Draft.on, hon, Option.getD_some]

end Draft

end Statechart
