import Statechart.Proofs.Diagram.Grammar
import Statechart.Proofs.Diagram.Views

/-!
# What a diagram means

Reading a diagram changes a draft line by line.  This file says what comes out without following
the lines: `Statement.ofDiagram` is the list of statements of a diagram, and
`Machine.IsMeaningOf m statements` says of a machine that it has the states mentioned, in the order
of their first mention, that the last transition for a state and an event decides where the event
leads, that the final states are those named by a final statement, and that the machine starts where
the last initial statement says.

`Draft.Records` is the invariant that ties a draft to the statements read so far.  One statement
preserves it (`Draft.Records.add`), so every run does (`Draft.records_ofLines`).  The main result,
`Machine.ofDiagram_eq_iff`, says that the machine of a diagram is the one machine that is the
meaning of its statements.
-/

namespace Statechart

namespace Statement

/-! ## The statements of a diagram -/

/-- What a line says by the first rule that fits its trimmed text.  Blank lines and comments say
nothing. -/
def byFirstRule? (line : Text) : Option Statement :=
  if Text.trim line = [] ∨ (Text.trim line).head? = some '%' then none
  else rules.findSome? fun rule => rule.2 (Text.trim line)

/-- The statements of a diagram in the order of its lines. -/
def ofDiagram (diagram : Text) : List Statement := (Text.lines diagram).filterMap byFirstRule?

/-- The state that an initial statement names. -/
def initialName? : Statement → Option Text
  | .initial name => some name
  | _ => none

/-- The event of a transition out of `source`. -/
def eventFrom? (source : Text) : Statement → Option Text
  | .transition s _ e => if s = source then some e else none
  | _ => none

/-- The target of a transition out of `source` on `event`. -/
def targetOf? (source event : Text) : Statement → Option Text
  | .transition s t e => if s = source ∧ e = event then some t else none
  | _ => none

lemma initialName?_eq_some_iff {st : Statement} {name : Text} :
    initialName? st = some name ↔ st = .initial name := by
  cases st <;> simp [initialName?]

lemma eventFrom?_eq_some_iff {st : Statement} {source event : Text} :
    eventFrom? source st = some event ↔ ∃ target, st = .transition source target event := by
  cases st <;> simp [eventFrom?]

lemma targetOf?_eq_some_iff {st : Statement} {source event target : Text} :
    targetOf? source event st = some target ↔ st = .transition source target event := by
  cases st with
  | transition s t e =>
    simp only [targetOf?, Option.ite_none_right_eq_some, Option.some.injEq, transition.injEq]
    tauto
  | initial name => simp [targetOf?]
  | final name => simp [targetOf?]
  | declaration name => simp [targetOf?]

lemma ofLine?_eq_byFirstRule? : ofLine? = byFirstRule? := by
  funext line
  rw [ofLine?_eq_ofTrimmed?, ofTrimmed?_eq_findSome?]
  rfl

lemma isWord_of_mem_ofDiagram {diagram name : Text} {st : Statement} (h : st ∈ ofDiagram diagram)
    (hname : name ∈ st.mentioned) : Text.IsWord name := by
  obtain ⟨line, -, hline⟩ := List.mem_filterMap.mp h
  rw [← ofLine?_eq_byFirstRule?] at hline
  exact isWord_of_lineSays (ofLine?_eq_some_iff.mp hline) hname

end Statement

/-! ## The meaning of statements -/

/-- The machine that a list of statements describes, said without reading them one by one. -/
structure Machine.IsMeaningOf (m : Machine) (statements : List Statement) : Prop where
  /-- The states are those mentioned, in the order of their first mention. -/
  names : m.states.names = (statements.flatMap Statement.mentioned).eraseDups
  /-- An event leads where the last transition for the state and the event says. -/
  target : ∀ name state, m.states.get? name = some state → ∀ event,
    state.on.get? event = (statements.filterMap (Statement.targetOf? name event)).getLast?
  /-- The events of a state are in the order of their first transition out of it. -/
  events : ∀ name state, m.states.get? name = some state →
    state.on.names = (statements.filterMap (Statement.eventFrom? name)).eraseDups
  /-- The final states are those that some final statement names. -/
  isFinal : ∀ name state, m.states.get? name = some state →
    (state.isFinal = true ↔ Statement.final name ∈ statements)
  /-- The machine starts where the last initial statement says, else in its first state, else in
  `idle`. -/
  initial : m.initial =
    (statements.filterMap Statement.initialName?).getLast?.getD (m.states.names.headD Machine.idle)

namespace Machine.IsMeaningOf

variable {m m' : Machine} {statements : List Statement}

/-- Two machines with one meaning have the same states. -/
lemma get?_eq (h : m.IsMeaningOf statements) (h' : m'.IsMeaningOf statements) (name : Text) :
    m.states.get? name = m'.states.get? name := by
  have hnames : m.states.names = m'.states.names := h.names.trans h'.names.symm
  by_cases hmem : name ∈ m.states.names
  · obtain ⟨state, hstate⟩ := Catalog.exists_get?_eq_some hmem
    obtain ⟨state', hstate'⟩ := Catalog.exists_get?_eq_some (hnames ▸ hmem)
    have hon : state.on = state'.on := by
      apply Catalog.ext_get?
      · rw [h.events name state hstate, h'.events name state' hstate']
      · intro event
        rw [h.target name state hstate, h'.target name state' hstate']
    have hfinal : state.isFinal = state'.isFinal := by
      rw [Bool.eq_iff_iff, h.isFinal name state hstate, h'.isFinal name state' hstate']
    have hstates : state = state' := by
      cases state
      cases state'
      simp_all
    rw [hstate, hstate', hstates]
  · rw [Catalog.get?_eq_none_iff.mpr hmem, Catalog.get?_eq_none_iff.mpr (hnames ▸ hmem)]

/-- Statements have one meaning. -/
lemma unique (h : m.IsMeaningOf statements) (h' : m'.IsMeaningOf statements) : m = m' := by
  have hnames : m.states.names = m'.states.names := h.names.trans h'.names.symm
  have hstates : m.states = m'.states := Catalog.ext_get? hnames (h.get?_eq h')
  have hinitial : m.initial = m'.initial := by rw [h.initial, h'.initial, hnames]
  cases m
  cases m'
  simp_all

/-- Every event of a state comes from a transition. -/
lemma exists_transition (h : m.IsMeaningOf statements) {name event : Text} {state : State}
    (hstate : m.states.get? name = some state) (hevent : event ∈ state.on.names) :
    ∃ target, Statement.transition name target event ∈ statements := by
  rw [h.events name state hstate, List.mem_eraseDups] at hevent
  obtain ⟨st, hst, hfrom⟩ := List.mem_filterMap.mp hevent
  obtain ⟨target, rfl⟩ := Statement.eventFrom?_eq_some_iff.mp hfrom
  exact ⟨target, hst⟩

end Machine.IsMeaningOf

/-! ## Drafts record statements -/

/-- The last result of `f` on a longer list is the one on the new item, if there is one. -/
lemma getLast?_filterMap_concat {α β : Type} (f : α → Option β) (l : List α) (a : α) :
    ((l ++ [a]).filterMap f).getLast? = (f a).or (l.filterMap f).getLast? := by
  rw [List.filterMap_append, List.getLast?_append]
  cases h : f a with
  | none => simp [h]
  | some b => simp [h]

namespace Draft

/-- What a draft holds after the given statements. -/
structure Records (statements : List Statement) (d : Draft) : Prop where
  /-- The states mentioned, in the order of their first mention. -/
  names : d.names = (statements.flatMap Statement.mentioned).eraseDups
  /-- The last transition for a state and an event counts. -/
  target : ∀ name event, (d.on name).get? event =
    (statements.filterMap (Statement.targetOf? name event)).getLast?
  /-- Events are in the order of their first transition. -/
  events : ∀ name, (d.on name).names =
    (statements.filterMap (Statement.eventFrom? name)).eraseDups
  /-- The states marked as final are those that a final statement names. -/
  finals : ∀ name, name ∈ d.finals ↔ Statement.final name ∈ statements
  /-- The last initial statement counts. -/
  initial : d.initial = (statements.filterMap Statement.initialName?).getLast?

variable {d : Draft} {statements : List Statement}

lemma records_nil : Records [] {} where
  names := rfl
  target _ _ := rfl
  events _ := rfl
  finals _ := by simp
  initial := rfl

/-- Mentioning a state adds it to the names in the order of first mention. -/
lemma names_mention_eq_eraseDups {l : List Text} (h : d.names = l.eraseDups) (name : Text) :
    (d.mention name).names = (l ++ [name]).eraseDups := by
  rw [names_mention, eraseDups_concat, h]
  simp only [List.mem_eraseDups]

lemma names_add (h : d.names = (statements.flatMap Statement.mentioned).eraseDups)
    (st : Statement) :
    (d.add st).names = ((statements ++ [st]).flatMap Statement.mentioned).eraseDups := by
  rw [List.flatMap_append]
  cases st with
  | initial name =>
    have h' : names { d with initial := some name } = _ := h
    exact names_mention_eq_eraseDups h' name
  | transition source target event =>
    change (d.addTransition source target event).names = _
    rw [names_addTransition,
      names_mention_eq_eraseDups (names_mention_eq_eraseDups h source) target, List.append_assoc]
    rfl
  | final name => exact names_mention_eq_eraseDups h name
  | declaration name => exact names_mention_eq_eraseDups h name

/-- A statement only adds the transition that it describes. -/
lemma on_add (st : Statement) (name : Text) :
    (d.add st).on name =
      match st with
      | .transition source target event =>
        if name = source then (d.on source).insert event target else d.on name
      | _ => d.on name := by
  cases st with
  | initial other => exact congrFun (on_mention other) name
  | transition source target event => exact on_addTransition source target event name
  | final other => exact congrFun (on_markFinal other) name
  | declaration other => exact congrFun (on_mention other) name

lemma target_add (h : ∀ name event, (d.on name).get? event =
    (statements.filterMap (Statement.targetOf? name event)).getLast?) (st : Statement)
    (name event : Text) :
    ((d.add st).on name).get? event =
      ((statements ++ [st]).filterMap (Statement.targetOf? name event)).getLast? := by
  rw [getLast?_filterMap_concat, ← h, on_add]
  cases st with
  | transition source target e =>
    by_cases hname : name = source
    · subst hname
      simp only [Statement.targetOf?, if_true, Catalog.get?_insert, true_and]
      by_cases he : event = e
      · simp [he]
      · simp [he, Ne.symm he]
    · simp [Statement.targetOf?, hname, Ne.symm hname]
  | initial other => rfl
  | final other => rfl
  | declaration other => rfl

lemma events_add (h : ∀ name, (d.on name).names =
    (statements.filterMap (Statement.eventFrom? name)).eraseDups) (st : Statement) (name : Text) :
    ((d.add st).on name).names =
      ((statements ++ [st]).filterMap (Statement.eventFrom? name)).eraseDups := by
  rw [List.filterMap_append, on_add]
  cases st with
  | transition source target e =>
    by_cases hname : name = source
    · subst hname
      have hevent : [Statement.transition name target e].filterMap (Statement.eventFrom? name) =
          [e] := by
        simp [Statement.eventFrom?]
      simp only [if_true]
      rw [hevent, eraseDups_concat, Catalog.names_insert, h name]
      simp only [List.mem_eraseDups]
    · simp [Statement.eventFrom?, hname, Ne.symm hname, h name]
  | initial other => simpa [Statement.eventFrom?, List.filterMap_cons] using h name
  | final other => simpa [Statement.eventFrom?, List.filterMap_cons] using h name
  | declaration other => simpa [Statement.eventFrom?, List.filterMap_cons] using h name

/-- Taking in a statement records it. -/
theorem Records.add (h : Records statements d) (st : Statement) :
    Records (statements ++ [st]) (d.add st) where
  names := names_add h.names st
  target := target_add h.target st
  events := events_add h.events st
  finals name := by
    rw [List.mem_append, ← h.finals, List.mem_singleton]
    cases st with
    | initial other => simp [Draft.add]
    | transition source target event => simp [Draft.add]
    | final other =>
      rw [Draft.add, mem_finals_markFinal, or_comm]
      simp
    | declaration other => simp [Draft.add]
  initial := by
    rw [getLast?_filterMap_concat, ← h.initial]
    cases st with
    | initial other => rfl
    | transition source target event => rfl
    | final other => rfl
    | declaration other => rfl

lemma Records.readLine (h : Records statements d) (line : Text) :
    Records (statements ++ (Statement.ofLine? line).toList) (d.readLine line) := by
  unfold Draft.readLine
  cases Statement.ofLine? line with
  | none => simpa using h
  | some st => exact h.add st

/-- Reading lines records what they say. -/
lemma Records.foldl_readLine (h : Records statements d) (lines : List Text) :
    Records (statements ++ lines.filterMap Statement.ofLine?) (lines.foldl Draft.readLine d) := by
  induction lines generalizing statements d with
  | nil => simpa using h
  | cons line lines ih =>
    have hstep := ih (h.readLine line)
    rw [List.append_assoc] at hstep
    cases hline : Statement.ofLine? line with
    | none => simpa [hline] using hstep
    | some st => simpa [hline] using hstep

/-- A draft records what the lines that were read say. -/
theorem records_ofLines (lines : List Text) :
    Records (lines.filterMap Statement.ofLine?) (ofLines lines) :=
  records_nil.foldl_readLine lines

/-- A draft closes to the machine that is the meaning of what it records, provided that no empty
name was recorded. -/
lemma Records.isMeaningOf_toMachine (h : Records statements d)
    (hne : ∀ st ∈ statements, ∀ name ∈ st.mentioned, name ≠ []) :
    d.toMachine.IsMeaningOf statements where
  names := by rw [names_toMachine, h.names]
  target name state hstate event := by
    obtain ⟨-, rfl⟩ := get?_toMachine_eq_some_iff.mp hstate
    exact h.target name event
  events name state hstate := by
    obtain ⟨-, rfl⟩ := get?_toMachine_eq_some_iff.mp hstate
    exact h.events name
  isFinal name state hstate := by
    obtain ⟨-, rfl⟩ := get?_toMachine_eq_some_iff.mp hstate
    rw [decide_eq_true_iff, h.finals]
  initial := by
    have hfilter : d.initial.filter (· ≠ []) = d.initial := by
      cases hinitial : d.initial with
      | none => rfl
      | some name =>
        obtain ⟨st, hst, hname⟩ := List.mem_filterMap.mp
          (List.mem_of_getLast? (h.initial.symm.trans hinitial))
        obtain rfl := Statement.initialName?_eq_some_iff.mp hname
        exact Option.filter_some_pos (decide_eq_true (hne _ hst name List.mem_cons_self))
    rw [names_toMachine, ← h.initial]
    exact congrArg (Option.getD · (d.names.headD Machine.idle)) hfilter

end Draft

lemma Machine.isMeaningOf_ofDiagram (diagram : Text) :
    (ofDiagram diagram).IsMeaningOf (Statement.ofDiagram diagram) := by
  unfold Statement.ofDiagram
  rw [← Statement.ofLine?_eq_byFirstRule?]
  apply (Draft.records_ofLines (Text.lines diagram)).isMeaningOf_toMachine
  intro st hst name hname
  rw [Statement.ofLine?_eq_byFirstRule?] at hst
  exact (Statement.isWord_of_mem_ofDiagram hst hname).1

/-- The states of the machine of a diagram are those that a line mentions. -/
lemma Machine.mem_names_ofDiagram_iff {diagram name : Text} :
    name ∈ (ofDiagram diagram).states.names ↔ ∃ line ∈ Text.lines diagram, ∃ st,
      Statement.ofLine? line = some st ∧ name ∈ st.mentioned := by
  rw [(isMeaningOf_ofDiagram diagram).names, List.mem_eraseDups, List.mem_flatMap]
  unfold Statement.ofDiagram
  rw [← Statement.ofLine?_eq_byFirstRule?]
  constructor
  · rintro ⟨st, hst, hname⟩
    obtain ⟨line, hline, hread⟩ := List.mem_filterMap.mp hst
    exact ⟨line, hline, st, hread, hname⟩
  · rintro ⟨line, hline, st, hread, hname⟩
    exact ⟨st, List.mem_filterMap.mpr ⟨line, hline, hread⟩, hname⟩

/-- The machine of a diagram is the one machine that is the meaning of its statements. -/
theorem Machine.ofDiagram_eq_iff (diagram : Text) (m : Machine) :
    Machine.ofDiagram diagram = m ↔ m.IsMeaningOf (Statement.ofDiagram diagram) := by
  have hrecords := Draft.records_ofLines (Text.lines diagram)
  rw [Statement.ofLine?_eq_byFirstRule?] at hrecords
  have hmeaning : (Machine.ofDiagram diagram).IsMeaningOf (Statement.ofDiagram diagram) :=
    hrecords.isMeaningOf_toMachine fun _ hst _ hname =>
      (Statement.isWord_of_mem_ofDiagram hst hname).1
  constructor
  · rintro rfl
    exact hmeaning
  · exact hmeaning.unique

end Statechart
