import Statechart.Proofs.Diagram.Closure
import Statechart.Proofs.Diagram.Trimming

/-!
# What a line does to a machine

A diagram is read into a draft, and the draft is closed at the end.  Nothing is lost if it is closed
earlier: what a statement does to a draft can be done to the machine itself (`Machine.add`).  It
mentions states, gives one state a transition or a mark, or moves the start of the machine.

`Draft.toMachine_add` is the step, one case for each kind of statement.  It needs a well-formed
draft, because a mark on a state that was not mentioned yet would come to light later.
`Machine.ofDiagram_append` is the run: lines behind a diagram change its machine by what they say,
statement by statement.
-/

namespace Statechart

open Text

/-! ## Statements applied to machines -/

namespace Machine

variable (m : Machine)

/-- Mention a state.  A new one is the last of the states, and if it is the only one, the machine
starts in it. -/
def mention (name : Text) : Machine where
  states := m.states.ensure name {}
  initial := if m.states.names = [] then name else m.initial

/-- Change a state. -/
def changeState (name : Text) (f : State → State) : Machine :=
  { m with states := m.states.revise name fun state => f (state.getD {}) }

/-- Let an event lead from one state to another. -/
def addTransition (source target event : Text) : Machine :=
  ((m.mention source).mention target).changeState source fun state =>
    { state with on := state.on.insert event target }

/-- Let the machine end in a state. -/
def markFinal (name : Text) : Machine :=
  (m.mention name).changeState name fun state => { state with isFinal := true }

/-- Let the machine start in a state. -/
def startIn (name : Text) : Machine := { m.mention name with initial := name }

/-- Take in one statement. -/
def add : Statement → Machine
  | .initial name => m.startIn name
  | .transition source target event => m.addTransition source target event
  | .final name => m.markFinal name
  | .declaration name => m.mention name

end Machine

/-! ## States of a draft -/

namespace Draft

variable {d d' : Draft} {name source target event : Text}

/-- The state that a name stands for when the draft is closed. -/
def state (d : Draft) (name : Text) : State where
  on := d.on name
  isFinal := d.finals.contains name

lemma get?_toMachine (name : Text) :
    d.toMachine.states.get? name = if name ∈ d.names then some (d.state name) else none := by
  by_cases hname : name ∈ d.names
  · rw [if_pos hname]
    refine get?_toMachine_eq_some_iff.mpr ⟨hname, ?_⟩
    unfold state
    rw [List.contains_eq_mem]
  · rw [if_neg hname, Catalog.get?_eq_none_iff, names_toMachine]
    exact hname

@[simp] lemma state_mention (name : Text) : (d.mention name).state = d.state := by
  funext other
  unfold state
  rw [on_mention, finals_mention]

/-- Nothing is known of a state that was not mentioned. -/
lemma WellFormed.state_eq_default (h : d.WellFormed) (hname : name ∉ d.names) :
    d.state name = {} := by
  have hon : d.on name = ∅ := by
    unfold on
    rw [Catalog.get?_eq_none_iff.mpr hname]
    rfl
  have hfinal : name ∉ d.finals := fun hmem => hname (h.final_mem name hmem)
  unfold state
  rw [hon, List.contains_eq_mem, decide_eq_false hfinal]

/-- Where nothing was mentioned, nothing was named as the initial state. -/
lemma WellFormed.initial_eq_none (h : d.WellFormed) (hnames : d.names = []) : d.initial = none := by
  rw [Option.eq_none_iff_forall_ne_some]
  intro name hname
  have hmem := h.initial_mem name hname
  rw [hnames] at hmem
  exact List.not_mem_nil hmem

/-! ## One statement -/

lemma toMachine_mention (h : d.WellFormed) (name : Text) :
    (d.mention name).toMachine = d.toMachine.mention name := by
  have hstates : (d.mention name).toMachine.states = d.toMachine.states.ensure name {} := by
    apply Catalog.ext_get?
    · rw [Catalog.names_ensure, names_toMachine, names_toMachine, names_mention]
    · intro other
      rw [Catalog.get?_ensure, get?_toMachine, get?_toMachine, get?_toMachine, state_mention]
      by_cases hother : other = name
      · subst hother
        rw [if_pos (mem_names_mention.mpr (.inr rfl)), if_pos rfl]
        by_cases hmem : other ∈ d.names
        · rw [if_pos hmem, Option.getD_some]
        · rw [if_neg hmem, Option.getD_none, h.state_eq_default hmem]
      · simp only [mem_names_mention, hother, or_false, if_false]
  have hinitial : (d.mention name).toMachine.initial =
      if d.toMachine.states.names = [] then name else d.toMachine.initial := by
    change (d.initial.filter (· ≠ [])).getD ((d.mention name).names.headD Machine.idle) =
      if d.toMachine.states.names = [] then name
        else (d.initial.filter (· ≠ [])).getD (d.names.headD Machine.idle)
    rw [names_toMachine, names_mention]
    cases hnames : d.names with
    | nil =>
      rw [h.initial_eq_none hnames]
      rfl
    | cons first rest =>
      rw [if_neg (List.cons_ne_nil first rest)]
      split <;> rfl
  exact congrArg₂ Machine.mk hstates hinitial

/-- A change of one state is the same before and after closing. -/
lemma toMachine_eq_changeState {f : State → State} (hname : name ∈ d.names)
    (hnames : d'.names = d.names) (hinitial : d'.initial = d.initial)
    (hstate : ∀ other, d'.state other = if other = name then f (d.state name) else d.state other) :
    d'.toMachine = d.toMachine.changeState name f := by
  have hstates : d'.toMachine.states =
      d.toMachine.states.revise name fun state => f (state.getD {}) := by
    apply Catalog.ext_get?
    · rw [Catalog.names_revise, names_toMachine, names_toMachine, if_pos hname, hnames]
    · intro other
      rw [Catalog.get?_revise, get?_toMachine, get?_toMachine, get?_toMachine, hnames, hstate,
        if_pos hname, Option.getD_some]
      by_cases hother : other = name
      · rw [if_pos hother, if_pos hother, hother, if_pos hname]
      · rw [if_neg hother, if_neg hother]
  have hstart : d'.toMachine.initial = d.toMachine.initial := by
    change (d'.initial.filter (· ≠ [])).getD (d'.names.headD Machine.idle) = _
    rw [hinitial, hnames]
    rfl
  exact congrArg₂ Machine.mk hstates hstart

lemma toMachine_addTransition (h : d.WellFormed) (hsource : IsWord source) :
    (d.addTransition source target event).toMachine =
      d.toMachine.addTransition source target event := by
  have hmentioned : ((d.mention source).mention target).toMachine =
      (d.toMachine.mention source).mention target := by
    rw [toMachine_mention (h.mention hsource), toMachine_mention h]
  unfold Machine.addTransition
  rw [← hmentioned]
  refine toMachine_eq_changeState (mem_names_mention.mpr (.inl (mem_names_mention.mpr (.inr rfl))))
    (names_addTransition source target event) rfl fun other => ?_
  rw [state_mention, state_mention]
  unfold state
  rw [on_addTransition, finals_addTransition]
  by_cases hother : other = source
  · rw [if_pos hother, if_pos hother, hother]
  · rw [if_neg hother, if_neg hother]

lemma toMachine_markFinal (h : d.WellFormed) (name : Text) :
    (d.markFinal name).toMachine = d.toMachine.markFinal name := by
  unfold Machine.markFinal
  rw [← toMachine_mention h]
  refine toMachine_eq_changeState (mem_names_mention.mpr (.inr rfl)) rfl rfl fun other => ?_
  rw [state_mention]
  unfold state
  rw [on_markFinal]
  by_cases hother : other = name
  · simp [hother, mem_finals_markFinal]
  · simp [hother, mem_finals_markFinal]

lemma toMachine_setInitial (h : d.WellFormed) (hname : IsWord name) :
    (Draft.mention { d with initial := some name } name).toMachine = d.toMachine.startIn name := by
  have hstates : (d.mention name).toMachine.states = (d.toMachine.mention name).states :=
    congrArg Machine.states (toMachine_mention h name)
  have hfilter : (some name).filter (· ≠ []) = some name :=
    Option.filter_some_pos (decide_eq_true hname.1)
  have hinitial : ((some name).filter (· ≠ [])).getD ((d.mention name).names.headD Machine.idle) =
      name := congrArg (Option.getD · _) hfilter
  exact congrArg₂ Machine.mk hstates hinitial

/-- Taking in a statement before closing a draft is the same as taking it in afterwards. -/
theorem toMachine_add (h : d.WellFormed) {st : Statement} (hst : st.WellFormed) :
    (d.add st).toMachine = d.toMachine.add st := by
  cases st with
  | initial name => exact toMachine_setInitial h (hst.isWord name (by simp [Statement.mentioned]))
  | transition source target event =>
    exact toMachine_addTransition h (hst.isWord source (by simp [Statement.mentioned]))
  | final name => exact toMachine_markFinal h name
  | declaration name => exact toMachine_mention h name

/-! ## Many lines -/

/-- The machine of a draft follows the lines, statement by statement. -/
lemma toMachine_foldl_readLine (h : d.WellFormed) {lines : List Text}
    (hlines : ∀ line ∈ lines, '\n' ∉ line) :
    (lines.foldl readLine d).toMachine =
      (lines.filterMap Statement.ofLine?).foldl Machine.add d.toMachine := by
  induction lines generalizing d with
  | nil => rfl
  | cons line lines ih =>
    obtain ⟨hline, hrest⟩ := List.forall_mem_cons.mp hlines
    rw [List.foldl_cons, ih (h.readLine hline) hrest]
    unfold readLine
    cases hst : Statement.ofLine? line with
    | none => rw [List.filterMap_cons_none hst, Option.elim_none]
    | some st =>
      have hwell := (Statement.ofLine?_eq_some_iff.mp hst).wellFormed hline
      rw [List.filterMap_cons_some hst, Option.elim_some, toMachine_add h hwell, List.foldl_cons]

end Draft

namespace Machine

variable {text line : Text} {st : Statement}

/-- Lines behind a diagram change its machine by what they say. -/
theorem ofDiagram_append (a b : Text) :
    ofDiagram (a ++ '\n' :: b) = (Statement.ofDiagram b).foldl add (ofDiagram a) := by
  have hwell : (Draft.ofLines (lines a)).WellFormed :=
    Draft.wellFormed_nil.foldl_readLine fun _ hline => not_mem_of_mem_lines hline
  have hlines : lines (a ++ '\n' :: b) = lines a ++ lines b := pieces_append a b
  unfold ofDiagram Draft.ofLines
  rw [hlines, List.foldl_append, Statement.ofDiagram, ← Statement.ofLine?_eq_byFirstRule?]
  exact Draft.toMachine_foldl_readLine hwell fun _ hline => not_mem_of_mem_lines hline

/-- One line behind a diagram changes its machine by one statement. -/
lemma ofDiagram_append_line (hline : '\n' ∉ line) (hst : Statement.ofLine? line = some st) :
    ofDiagram (text ++ '\n' :: line) = (ofDiagram text).add st := by
  have hlines : lines line = [line] := pieces_of_not_mem hline
  rw [ofDiagram_append, Statement.ofDiagram, ← Statement.ofLine?_eq_byFirstRule?, hlines,
    List.filterMap_cons_some hst]
  rfl

end Machine

end Statechart
