import Mathlib.Data.List.Basic
import Statechart.Proofs.Diagram.Meaning

/-!
# Diagrams with their lines in another order

The order of two lines matters where one overrides the other: both are initial transitions, or both
are transitions for the same state and event.  `Rearranged l l'` says of two lists of lines that one
is a permutation of the other and that lines of which one overrides the other keep their order.

The machines of such diagrams are the same but for the order of their states and events
(`Machine.SameButOrder`), and they start in the same state if some line names it.  Without such a
line each machine starts in its first state, and this does depend on the order.  Nothing is read
again for this: the meaning of statements asks for their order only among those that override one
another.
-/

namespace Statechart

open Text Statement

variable {α : Type} {l l' : List Text}

/-! ## Lines that keep their order -/

/-- The lines with a statement on which `f` has a value are the same in both lists, in the same
order. -/
def KeepsOrder (f : Statement → Option α) (l l' : List Text) : Prop :=
  l.filter (fun line => ((ofLine? line).bind f).isSome) =
    l'.filter (fun line => ((ofLine? line).bind f).isSome)

instance (f : Statement → Option α) : Decidable (KeepsOrder f l l') :=
  inferInstanceAs (Decidable (_ = _))

/-- The lines are those of another list in an order that keeps the initial transitions in their
order, and the transitions for each state and event as well. -/
structure Rearranged (l l' : List Text) : Prop where
  /-- The lines are the same, each as many times. -/
  perm : l.Perm l'
  /-- Initial transitions keep their order. -/
  initials : KeepsOrder initialName? l l'
  /-- Transitions for the same state and event keep their order. -/
  transitions : ∀ source event, KeepsOrder (targetOf? source event) l l'

/-- What is read off the statements does not depend on the order of other lines. -/
lemma KeepsOrder.filterMap_eq {f : Statement → Option α} (h : KeepsOrder f l l') :
    (l.filterMap ofLine?).filterMap f = (l'.filterMap ofLine?).filterMap f := by
  have hfilter : ∀ k : List Text, (k.filterMap ofLine?).filterMap f =
      (k.filter fun line => ((ofLine? line).bind f).isSome).filterMap fun line =>
        (ofLine? line).bind f := by
    intro k
    rw [List.filterMap_filterMap, List.filterMap_filter]
    congr 1
    funext line
    cases (ofLine? line).bind f <;> rfl
  rw [hfilter, hfilter, h]

lemma KeepsOrder.of_forall_eq_none {f : Statement → Option α} (hperm : l.Perm l')
    (h : ∀ st ∈ l.filterMap ofLine?, f st = none) : KeepsOrder f l l' := by
  have hnone : ∀ line ∈ l, ¬ ((ofLine? line).bind f).isSome = true := by
    intro line hline
    cases hst : ofLine? line with
    | none => simp
    | some st => simp [h st (List.mem_filterMap.mpr ⟨line, hline, hst⟩)]
  unfold KeepsOrder
  rw [List.filter_eq_nil_iff.mpr hnone,
    List.filter_eq_nil_iff.mpr fun line hline => hnone line (hperm.mem_iff.mpr hline)]

/-- The state and the event that a transition is for. -/
def Statement.stateAndEvent? : Statement → Option (Text × Text)
  | .transition source _ event => some (source, event)
  | _ => none

/-- Only states and events that some transition is for have to be looked at. -/
lemma rearranged_iff : Rearranged l l' ↔ l.Perm l' ∧ KeepsOrder initialName? l l' ∧
    ∀ p ∈ (l.filterMap ofLine?).filterMap stateAndEvent?, KeepsOrder (targetOf? p.1 p.2) l l' := by
  constructor
  · intro h
    exact ⟨h.perm, h.initials, fun p _ => h.transitions p.1 p.2⟩
  · rintro ⟨hperm, hinitials, htransitions⟩
    refine ⟨hperm, hinitials, fun source event => ?_⟩
    by_cases hmem : (source, event) ∈ (l.filterMap ofLine?).filterMap stateAndEvent?
    · exact htransitions _ hmem
    · refine .of_forall_eq_none hperm fun st hst => ?_
      refine Option.eq_none_iff_forall_ne_some.mpr fun target htarget => ?_
      obtain rfl := targetOf?_eq_some_iff.mp htarget
      exact hmem (List.mem_filterMap.mpr ⟨_, hst, rfl⟩)

instance : Decidable (Rearranged l l') := decidable_of_iff _ rearranged_iff.symm

/-! ## Machines that are the same but for the order -/

namespace Machine

/-- Machines with the same states, where the order of states and events and the state to start in
are left aside. -/
structure SameButOrder (m m' : Machine) : Prop where
  /-- The machines have the same states. -/
  names : ∀ name, name ∈ m.states.names ↔ name ∈ m'.states.names
  /-- Every event leads to the same state. -/
  target : ∀ name state state', m.states.get? name = some state →
    m'.states.get? name = some state' → ∀ event, state.on.get? event = state'.on.get? event
  /-- The machines may end in the same states. -/
  isFinal : ∀ name state state', m.states.get? name = some state →
    m'.states.get? name = some state' → state.isFinal = state'.isFinal

namespace IsMeaningOf

variable {m m' : Machine} {statements statements' : List Statement}

/-- Only for one state and event does the order of transitions matter. -/
lemma sameButOrder (h : m.IsMeaningOf statements) (h' : m'.IsMeaningOf statements')
    (hperm : statements.Perm statements')
    (htarget : ∀ source event, statements.filterMap (targetOf? source event) =
      statements'.filterMap (targetOf? source event)) : SameButOrder m m' where
  names name := by
    rw [h.names, h'.names, List.mem_eraseDups, List.mem_eraseDups, List.mem_flatMap,
      List.mem_flatMap]
    simp only [hperm.mem_iff]
  target name state state' hstate hstate' event := by
    rw [h.target name state hstate, h'.target name state' hstate', htarget]
  isFinal name state state' hstate hstate' := by
    rw [Bool.eq_iff_iff, h.isFinal name state hstate, h'.isFinal name state' hstate',
      hperm.mem_iff]

/-- If a statement names the state to start in, only the order of such statements matters. -/
lemma initial_eq_of_mem (h : m.IsMeaningOf statements) (h' : m'.IsMeaningOf statements')
    (hinitial : statements.filterMap initialName? = statements'.filterMap initialName?)
    {name : Text} (hmem : .initial name ∈ statements) : m.initial = m'.initial := by
  have hne : statements.filterMap initialName? ≠ [] :=
    List.ne_nil_of_mem (List.mem_filterMap.mpr ⟨_, hmem, rfl⟩)
  rw [h.initial, h'.initial, ← hinitial, List.getLast?_eq_some_getLast hne]
  rfl

end IsMeaningOf

/-- Lines may change places unless one overrides the other. -/
theorem ofDiagram_rearranged {a b : Text} (h : Rearranged (lines a) (lines b)) :
    SameButOrder (ofDiagram a) (ofDiagram b) ∧
      ((∃ line ∈ lines a, ∃ name, ofLine? line = some (.initial name)) →
        (ofDiagram a).initial = (ofDiagram b).initial) := by
  have ha := isMeaningOf_ofDiagram a
  have hb := isMeaningOf_ofDiagram b
  rw [Statement.ofDiagram, ← ofLine?_eq_byFirstRule?] at ha hb
  refine ⟨ha.sameButOrder hb (h.perm.filterMap ofLine?) fun source event =>
    (h.transitions source event).filterMap_eq, ?_⟩
  rintro ⟨line, hline, name, hsays⟩
  have hmem : .initial name ∈ a.lines.filterMap ofLine? :=
    List.mem_filterMap.mpr ⟨line, hline, hsays⟩
  exact ha.initial_eq_of_mem hb h.initials.filterMap_eq hmem

/-- All lines of a diagram move, but the two initial transitions stay in their order and so do the
two transitions for `go`.  The machines differ, but not beyond the order. -/
theorem ofDiagram_rearranged_overriding :
    let a := "A --> B : go\n[*] --> B\nB --> [*]\nA --> C : go\n[*] --> A\nstate D\nC --> A".toList
    let b := "C --> A\nstate D\n[*] --> B\nA --> B : go\n[*] --> A\nA --> C : go\nB --> [*]".toList
    Rearranged (lines a) (lines b) ∧ SameButOrder (ofDiagram a) (ofDiagram b) ∧
      (ofDiagram a).initial = (ofDiagram b).initial ∧ ofDiagram a ≠ ofDiagram b := by
  intro a b
  have h : Rearranged (lines a) (lines b) := by decide +kernel
  obtain ⟨hsame, hinitial⟩ := ofDiagram_rearranged h
  have hnamed : ∃ line ∈ lines a, ∃ name, ofLine? line = some (.initial name) :=
    ⟨"[*] --> B".toList, by decide, ['B'], by decide⟩
  exact ⟨h, hsame, hinitial hnamed, by decide +kernel⟩

end Machine

end Statechart
