import Mathlib.Data.List.Basic
import Statechart.Proofs.Diagram.Trimming

/-!
# Diagrams that grow

More lines behind a diagram only add to its machine.  `Machine.GrowsBy statements m m'` says what
becomes of a machine `m` when further statements are read: the states stay in their places, each
with its events in their places, an event leads elsewhere only if one of the statements says so, a
final state stays final, and the state to start in changes only with an initial statement or if
there was no state at all.

A diagram whose text is written a second time behind itself says nothing new
(`Machine.ofDiagram_append_self`).  Both results follow from the meaning of statements, without
reading the lines again.
-/

namespace Statechart

/-- Items that occur for the first time in a list keep their places when the list grows. -/
lemma eraseDups_isPrefix_append (l k : List Text) : l.eraseDups <+: (l ++ k).eraseDups := by
  rw [List.eraseDups_append]
  exact List.prefix_append _ _

/-- A list that is written twice has no new items. -/
lemma eraseDups_append_self (l : List Text) : (l ++ l).eraseDups = l.eraseDups := by
  have hnone : l.removeAll l = [] := by simp [List.removeAll]
  rw [List.eraseDups_append, hnone, List.eraseDups_nil, List.append_nil]

lemma getLast?_append_self {α : Type} (l : List α) : (l ++ l).getLast? = l.getLast? := by
  rw [List.getLast?_append, Option.or_self]

namespace Machine

variable {m m' : Machine} {statements further : List Statement}

/-- Statements that are made a second time in the same order change nothing. -/
lemma IsMeaningOf.append_self (h : m.IsMeaningOf statements) :
    m.IsMeaningOf (statements ++ statements) where
  names := by rw [List.flatMap_append, eraseDups_append_self, h.names]
  target name state hstate event := by
    rw [List.filterMap_append, getLast?_append_self, h.target name state hstate]
  events name state hstate := by
    rw [List.filterMap_append, eraseDups_append_self, h.events name state hstate]
  isFinal name state hstate := by
    rw [List.mem_append, or_self, h.isFinal name state hstate]
  initial := by rw [List.filterMap_append, getLast?_append_self, h.initial]

/-- What becomes of a machine `m` when further statements make it `m'`. -/
structure GrowsBy (further : List Statement) (m m' : Machine) : Prop where
  /-- The states stay in their places. -/
  names : m.states.names <+: m'.states.names
  /-- The events of a state stay in their places. -/
  events : ∀ name state, m.states.get? name = some state → ∃ state',
    m'.states.get? name = some state' ∧ state.on.names <+: state'.on.names
  /-- An event leads elsewhere only if a further transition says so. -/
  target : ∀ name state state', m.states.get? name = some state →
    m'.states.get? name = some state' → ∀ event, state'.on.get? event ≠ state.on.get? event →
      ∃ target, Statement.transition name target event ∈ further
  /-- A final state stays final. -/
  isFinal : ∀ name state state', m.states.get? name = some state →
    m'.states.get? name = some state' → state.isFinal = true → state'.isFinal = true
  /-- A machine with a state starts where it started unless a further statement is an initial
  one. -/
  initial : m.states.names ≠ [] → (∀ name, Statement.initial name ∉ further) →
    m'.initial = m.initial

namespace IsMeaningOf

variable (h : m.IsMeaningOf statements) (h' : m'.IsMeaningOf (statements ++ further))
include h h'

lemma names_isPrefix : m.states.names <+: m'.states.names := by
  rw [h.names, h'.names, List.flatMap_append]
  exact eraseDups_isPrefix_append _ _

lemma exists_state_of_append {name : Text} {state : State}
    (hstate : m.states.get? name = some state) :
    ∃ state', m'.states.get? name = some state' ∧ state.on.names <+: state'.on.names := by
  have hmem : name ∈ m'.states.names :=
    (h.names_isPrefix h').subset (Catalog.mem_names_of_get?_eq_some hstate)
  obtain ⟨state', hstate'⟩ := Catalog.exists_get?_eq_some hmem
  refine ⟨state', hstate', ?_⟩
  rw [h.events name state hstate, h'.events name state' hstate', List.filterMap_append]
  exact eraseDups_isPrefix_append _ _

/-- If no further transition is for the state and the event, the last one is what it was. -/
lemma exists_transition_of_get?_ne {name event : Text} {state state' : State}
    (hstate : m.states.get? name = some state) (hstate' : m'.states.get? name = some state')
    (hne : state'.on.get? event ≠ state.on.get? event) :
    ∃ target, Statement.transition name target event ∈ further := by
  rw [h.target name state hstate, h'.target name state' hstate', List.filterMap_append] at hne
  have hsome : further.filterMap (Statement.targetOf? name event) ≠ [] := by
    intro hnil
    rw [hnil, List.append_nil] at hne
    exact hne rfl
  obtain ⟨target, htarget⟩ := List.exists_mem_of_ne_nil _ hsome
  obtain ⟨st, hst, hof⟩ := List.mem_filterMap.mp htarget
  obtain rfl := Statement.targetOf?_eq_some_iff.mp hof
  exact ⟨target, hst⟩

lemma initial_eq_of_append (hstates : m.states.names ≠ [])
    (hfurther : ∀ name, Statement.initial name ∉ further) : m'.initial = m.initial := by
  have hnone : further.filterMap Statement.initialName? = [] := by
    rw [List.filterMap_eq_nil_iff]
    intro st hst
    refine Option.eq_none_iff_forall_ne_some.mpr fun name hname => ?_
    obtain rfl := Statement.initialName?_eq_some_iff.mp hname
    exact hfurther name hst
  have hhead : m'.states.names.headD idle = m.states.names.headD idle := by
    obtain ⟨rest, hrest⟩ := h.names_isPrefix h'
    obtain ⟨first, names, hnames⟩ := List.exists_cons_of_ne_nil hstates
    rw [← hrest, hnames]
    rfl
  rw [h.initial, h'.initial, List.filterMap_append, hnone, List.append_nil, hhead]

/-- Further statements let a machine grow. -/
lemma growsBy_of_append : GrowsBy further m m' where
  names := h.names_isPrefix h'
  events _ _ := h.exists_state_of_append h'
  target _ _ _ hstate hstate' _ := h.exists_transition_of_get?_ne h' hstate hstate'
  isFinal name state state' hstate hstate' hfinal := by
    rw [h'.isFinal name state' hstate', List.mem_append]
    exact .inl ((h.isFinal name state hstate).mp hfinal)
  initial := h.initial_eq_of_append h'

end IsMeaningOf

/-- Lines behind a diagram let its machine grow by what they say. -/
theorem growsBy_ofDiagram_append (a b : Text) :
    GrowsBy (Statement.ofDiagram b) (ofDiagram a) (ofDiagram (a ++ '\n' :: b)) := by
  have hlonger := isMeaningOf_ofDiagram (a ++ '\n' :: b)
  rw [Statement.ofDiagram_append_line] at hlonger
  exact (isMeaningOf_ofDiagram a).growsBy_of_append hlonger

/-- A diagram that is written twice, line behind line, describes the machine that it describes when
it is written once. -/
theorem ofDiagram_append_self (diagram : Text) :
    ofDiagram (diagram ++ '\n' :: diagram) = ofDiagram diagram := by
  have htwice := isMeaningOf_ofDiagram (diagram ++ '\n' :: diagram)
  rw [Statement.ofDiagram_append_line] at htwice
  exact htwice.unique (isMeaningOf_ofDiagram diagram).append_self

end Machine

end Statechart
