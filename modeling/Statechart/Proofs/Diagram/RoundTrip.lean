import Statechart.Proofs.Diagram.Meaning
import Statechart.Proofs.Diagram.Written

/-!
# Machines written as diagrams

Every machine that a diagram can describe is described by one: its states are declared in order,
then its transitions, its final states and its initial state are stated (`Machine.statements`).
`Machine.ofDiagram_written` reads this back, whatever the indentation of the lines and whatever
blank lines and comments stand between them.

Two facts make up the proof.  A line with a written statement says this statement
(`Statement.ofLine?_written`), and the machine is the meaning of its own statements
(`Machine.IsWritable.isMeaningOf_statements`), of which there is only one.
-/

namespace Statechart

open Text

/-! ## Diagrams of machines -/

namespace Machine

/-- The transitions out of a state. -/
def transitionsOut (name : Text) (state : State) : List Statement :=
  state.on.entries.map fun e => .transition name e.2 e.1

/-- What a diagram of a machine states: its states, its transitions, its final states and its
initial state. -/
def statements (m : Machine) : List Statement :=
  m.states.names.map .declaration ++ ((m.states.entries.flatMap fun e => transitionsOut e.1 e.2) ++
    ((m.states.entries.flatMap fun e => if e.2.isFinal then [.final e.1] else []) ++
      [.initial m.initial]))

/-- The machine as a diagram, one line for each statement. -/
def toDiagram (m : Machine) : Text := List.intercalate ['\n'] (m.statements.map Statement.written)

/-- A machine that a diagram can describe: names are words, events are written as events should be
and hold no initial marker, and the machine never leaves its states. -/
structure IsWritable (m : Machine) : Prop where
  isWord : ∀ name ∈ m.states.names, IsWord name
  initial_mem : m.initial ∈ m.states.names
  target_mem : ∀ name state, m.states.get? name = some state →
    ∀ event target, state.on.get? event = some target → target ∈ m.states.names
  isEvent : ∀ name state, m.states.get? name = some state →
    ∀ event ∈ state.on.names, Statement.IsEvent event
  no_marker : ∀ name state, m.states.get? name = some state →
    ∀ event ∈ state.on.names, ¬ Contains Statement.InitialPlace event

end Machine

/-- A line that says nothing: it is blank, or it is a comment. -/
def IsFiller (line : Text) : Prop := trim line = [] ∨ (trim line).head? = some '%'

/-- The lines hold the texts in order, each between blanks, with fillers in between. -/
inductive IsLaidOut : List Text → List Text → Prop
  | nil : IsLaidOut [] []
  | filler {texts lines : List Text} {line : Text} (hline : IsFiller line)
      (h : IsLaidOut texts lines) : IsLaidOut texts (line :: lines)
  | text {texts lines : List Text} {text indent behind : Text} (hindent : AllIn isBlank indent)
      (hbehind : AllIn isBlank behind) (h : IsLaidOut texts lines) :
      IsLaidOut (text :: texts) ((indent ++ (text ++ behind)) :: lines)

/-! ## The statements of a machine -/

namespace Machine

open Statement

variable {m : Machine} {st : Statement} {name event : Text} {state : State}

lemma mem_transitionsOut : st ∈ transitionsOut name state ↔
    ∃ event target, state.on.get? event = some target ∧ st = .transition name target event := by
  unfold transitionsOut
  rw [List.mem_map]
  constructor
  · rintro ⟨⟨event, target⟩, hmem, rfl⟩
    exact ⟨event, target, Catalog.get?_eq_some_iff.mpr hmem, rfl⟩
  · rintro ⟨event, target, hget, rfl⟩
    exact ⟨(event, target), Catalog.get?_eq_some_iff.mp hget, rfl⟩

/-- A machine states what its states are, where they lead, where it may end and where it starts. -/
lemma mem_statements : st ∈ m.statements ↔
    (∃ name ∈ m.states.names, st = .declaration name) ∨
    (∃ name state, m.states.get? name = some state ∧ st ∈ transitionsOut name state) ∨
    (∃ name state, m.states.get? name = some state ∧ state.isFinal = true ∧ st = .final name) ∨
    st = .initial m.initial := by
  have hfinal : ∀ e : Text × State,
      (st ∈ if e.2.isFinal then [Statement.final e.1] else []) ↔
        e.2.isFinal = true ∧ st = .final e.1 := by
    intro e
    cases e.2.isFinal <;> simp
  simp only [statements, List.mem_append, List.mem_map, List.mem_flatMap, hfinal, Prod.exists,
    ← Catalog.get?_eq_some_iff, List.mem_singleton, eq_comm (a := st)]

namespace IsWritable

lemma isWritable_of_mem (h : m.IsWritable) (hst : st ∈ m.statements) : st.IsWritable := by
  rcases mem_statements.mp hst with ⟨name, hname, rfl⟩ | ⟨name, state, hstate, hmem⟩ |
    ⟨name, state, hstate, -, rfl⟩ | rfl
  · exact ⟨⟨by simpa [mentioned] using h.isWord name hname, by simp⟩, by simp⟩
  · obtain ⟨event, target, htarget, rfl⟩ := mem_transitionsOut.mp hmem
    have hsource := h.isWord name (Catalog.mem_names_of_get?_eq_some hstate)
    have hword := h.isWord target (h.target_mem name state hstate event target htarget)
    have hevent := Catalog.mem_names_of_get?_eq_some htarget
    exact isWritable_transition hsource hword (h.isEvent name state hstate event hevent)
      (h.no_marker name state hstate event hevent)
  · have hword := h.isWord name (Catalog.mem_names_of_get?_eq_some hstate)
    exact ⟨⟨by simpa [mentioned] using hword, by simp⟩, by simp⟩
  · exact ⟨⟨by simpa [mentioned] using h.isWord _ h.initial_mem, by simp⟩, by simp⟩

/-- The statements mention no name that is not a state. -/
lemma mem_names_of_mem_mentioned (h : m.IsWritable) (hst : st ∈ m.statements)
    (hname : name ∈ st.mentioned) : name ∈ m.states.names := by
  rcases mem_statements.mp hst with ⟨other, hother, rfl⟩ | ⟨other, state, hstate, hmem⟩ |
    ⟨other, state, hstate, -, rfl⟩ | rfl
  · rw [mentioned, List.mem_singleton] at hname
    exact hname ▸ hother
  · obtain ⟨event, target, htarget, rfl⟩ := mem_transitionsOut.mp hmem
    rw [mentioned, List.mem_pair] at hname
    rcases hname with rfl | rfl
    · exact Catalog.mem_names_of_get?_eq_some hstate
    · exact h.target_mem other state hstate event name htarget
  · rw [mentioned, List.mem_singleton] at hname
    exact hname ▸ Catalog.mem_names_of_get?_eq_some hstate
  · rw [mentioned, List.mem_singleton] at hname
    exact hname ▸ h.initial_mem

end IsWritable

lemma eraseDups_of_nodup {l : List Text} (h : l.Nodup) : l.eraseDups = l := by
  induction l with
  | nil => rfl
  | cons a l ih =>
    obtain ⟨ha, hl⟩ := List.nodup_cons.mp h
    have hfilter : l.filter (fun b => !b == a) = l := by
      rw [List.filter_eq_self]
      intro b hb
      have hne : b ≠ a := fun heq => ha (heq ▸ hb)
      simp [hne]
    rw [List.eraseDups_cons, hfilter, ih hl]

lemma eraseDups_append_of_subset {l l' : List Text} (h : l.Nodup) (h' : ∀ a ∈ l', a ∈ l) :
    (l ++ l').eraseDups = l := by
  have hnil : l'.removeAll l = [] := by
    unfold List.removeAll
    rw [List.filter_eq_nil_iff]
    intro a ha
    simp [h' a ha]
  rw [List.eraseDups_append, eraseDups_of_nodup h, hnil, List.eraseDups_nil, List.append_nil]

lemma names_statements (h : m.IsWritable) :
    (m.statements.flatMap mentioned).eraseDups = m.states.names := by
  have hdeclared : (m.states.names.map Statement.declaration).flatMap mentioned =
      m.states.names := by
    rw [List.flatMap_map]
    exact List.flatMap_singleton' _
  rw [statements, List.flatMap_append, hdeclared]
  apply eraseDups_append_of_subset (Catalog.nodup_names _)
  intro name hname
  obtain ⟨st, hst, hmentioned⟩ := List.mem_flatMap.mp hname
  exact h.mem_names_of_mem_mentioned (List.mem_append_right _ hst) hmentioned

/-- What is read off the transitions out of a state comes from its transitions alone. -/
lemma filterMap_statements {α : Type} (f : Statement → Option α)
    (hdeclaration : ∀ name, f (.declaration name) = none)
    (hfinal : ∀ name, f (.final name) = none) (hinitial : ∀ name, f (.initial name) = none)
    (hother : ∀ other target event, other ≠ name → f (.transition other target event) = none)
    (hstate : m.states.get? name = some state) :
    m.statements.filterMap f = (transitionsOut name state).filterMap f := by
  have hdeclarations : (m.states.names.map Statement.declaration).filterMap f = [] := by
    simp [hdeclaration]
  have hfinals : (m.states.entries.flatMap fun e =>
      if e.2.isFinal then [Statement.final e.1] else []).filterMap f = [] := by
    rw [List.filterMap_eq_nil_iff]
    intro st hst
    obtain ⟨e, -, he⟩ := List.mem_flatMap.mp hst
    split at he
    · rw [List.mem_singleton.mp he, hfinal]
    · exact absurd he List.not_mem_nil
  have hout : ∀ e : Text × State, (transitionsOut e.1 e.2).filterMap f =
      if e.1 = name then (transitionsOut name e.2).filterMap f else [] := by
    intro e
    by_cases he : e.1 = name
    · rw [if_pos he, he]
    · rw [if_neg he, List.filterMap_eq_nil_iff]
      intro st hst
      obtain ⟨event, target, -, rfl⟩ := mem_transitionsOut.mp hst
      exact hother e.1 target event he
  have hentries := Catalog.flatMap_entries_eq m.states name
    fun state => (transitionsOut name state).filterMap f
  rw [hstate, Option.map_some, Option.getD_some] at hentries
  rw [statements, List.filterMap_append, List.filterMap_append, List.filterMap_append,
    hdeclarations, hfinals, List.filterMap_flatMap]
  simp only [hout, hentries, List.nil_append, List.filterMap_cons, hinitial, List.filterMap_nil,
    List.append_nil]

lemma target_statements (hstate : m.states.get? name = some state) (event : Text) :
    (m.statements.filterMap (targetOf? name event)).getLast? = state.on.get? event := by
  have hout : (transitionsOut name state).filterMap (targetOf? name event) =
      (state.on.get? event).toList := by
    have hentries := Catalog.flatMap_entries_eq state.on event fun target => [target]
    rw [transitionsOut, List.filterMap_map, List.filterMap_eq_flatMap_toList]
    have hread : (fun e : Text × Text => ((targetOf? name event ∘
        fun e => Statement.transition name e.2 e.1) e).toList) =
        fun e => if e.1 = event then [e.2] else [] := by
      funext e
      by_cases he : e.1 = event <;> simp [targetOf?, he]
    rw [hread, hentries]
    cases state.on.get? event <;> rfl
  rw [filterMap_statements (targetOf? name event) (fun _ => rfl) (fun _ => rfl) (fun _ => rfl)
    (fun other target e hne => by simp [targetOf?, hne]) hstate, hout]
  cases state.on.get? event <;> rfl

lemma events_statements (hstate : m.states.get? name = some state) :
    (m.statements.filterMap (eventFrom? name)).eraseDups = state.on.names := by
  have hout : (transitionsOut name state).filterMap (eventFrom? name) = state.on.names := by
    rw [transitionsOut, List.filterMap_map, Catalog.names, ← List.filterMap_eq_map]
    congr 1
    funext e
    simp [eventFrom?]
  rw [filterMap_statements (eventFrom? name) (fun _ => rfl) (fun _ => rfl) (fun _ => rfl)
    (fun other target e hne => by simp [eventFrom?, hne]) hstate, hout]
  exact eraseDups_of_nodup (Catalog.nodup_names _)

lemma final_mem_statements (hstate : m.states.get? name = some state) :
    Statement.final name ∈ m.statements ↔ state.isFinal = true := by
  rw [mem_statements]
  constructor
  · rintro (⟨other, -, h⟩ | ⟨other, state', -, h⟩ | ⟨other, state', hother, hfinal, h⟩ | h)
    · exact absurd h (by simp)
    · obtain ⟨event, target, -, h⟩ := mem_transitionsOut.mp h
      exact absurd h (by simp)
    · obtain rfl := Statement.final.inj h
      rw [hstate, Option.some.injEq] at hother
      exact hother ▸ hfinal
    · exact absurd h (by simp)
  · intro hfinal
    exact .inr (.inr (.inl ⟨name, state, hstate, hfinal, rfl⟩))

lemma initialName?_statements :
    (m.statements.filterMap initialName?).getLast? = some m.initial := by
  unfold statements
  rw [← List.append_assoc, ← List.append_assoc, getLast?_filterMap_concat]
  rfl

/-- A machine is the meaning of its own statements. -/
lemma IsWritable.isMeaningOf_statements (h : m.IsWritable) : m.IsMeaningOf m.statements where
  names := (names_statements h).symm
  target _ _ hstate event := (target_statements hstate event).symm
  events _ _ hstate := (events_statements hstate).symm
  isFinal _ _ hstate := (final_mem_statements hstate).symm
  initial := by rw [initialName?_statements, Option.getD_some]

end Machine

/-! ## Reading a diagram back -/

lemma ofLine?_eq_none_of_isFiller {line : Text} (h : IsFiller line) :
    Statement.ofLine? line = none := by
  rw [Statement.ofLine?_eq_ofTrimmed?]
  exact if_pos h

/-- Laid-out statements are read in order, and the fillers say nothing. -/
lemma filterMap_ofLine?_of_isLaidOut {statements : List Statement} {lines : List Text}
    (hlay : IsLaidOut (statements.map Statement.written) lines)
    (h : ∀ st ∈ statements, st.IsWritable) : lines.filterMap Statement.ofLine? = statements := by
  generalize htexts : statements.map Statement.written = texts at hlay
  induction hlay generalizing statements with
  | nil => rw [List.map_eq_nil_iff.mp htexts, List.filterMap_nil]
  | filler hline _ ih =>
    rw [List.filterMap_cons_none (ofLine?_eq_none_of_isFiller hline)]
    exact ih h htexts
  | text hindent hbehind _ ih =>
    obtain ⟨st, rest, rfl, rfl, hrest⟩ := List.map_eq_cons_iff.mp htexts
    obtain ⟨hst, hwritable⟩ := List.forall_mem_cons.mp h
    rw [List.filterMap_cons_some (Statement.ofLine?_written hst hindent hbehind),
      ih hwritable hrest]

lemma isLaidOut_self (texts : List Text) : IsLaidOut texts texts := by
  induction texts with
  | nil => exact .nil
  | cons text texts ih => simpa using IsLaidOut.text allIn_nil allIn_nil ih

/-- Lines hold the trimmed texts of those among them that are no fillers. -/
lemma isLaidOut_of_trim {texts lines : List Text}
    (h : ((lines.map trim).filter fun t => t ≠ [] ∧ t.head? ≠ some '%') = texts) :
    IsLaidOut texts lines := by
  subst h
  induction lines with
  | nil => exact .nil
  | cons line lines ih =>
    rw [List.map_cons, List.filter_cons]
    by_cases hline : IsFiller line
    · rw [if_neg (by simpa [IsFiller, imp_iff_not_or] using hline)]
      exact .filler hline ih
    · obtain ⟨indent, behind, hsplit, hindent, hbehind, -⟩ := exists_append_trim_append line
      have htext : IsLaidOut (trim line :: _) ((indent ++ (trim line ++ behind)) :: lines) :=
        .text hindent hbehind ih
      rw [← List.append_assoc, ← hsplit] at htext
      rw [if_pos (by simpa [IsFiller] using hline)]
      exact htext

namespace Machine

lemma lines_toDiagram {m : Machine} (h : m.IsWritable) :
    lines m.toDiagram = m.statements.map Statement.written := by
  apply pieces_intercalate
  · simp [statements]
  · intro line hline
    obtain ⟨st, hst, rfl⟩ := List.mem_map.mp hline
    exact Statement.no_line_feed_written (h.isWritable_of_mem hst).toWellFormed

/-- A machine that is written as a diagram is read back, with its states and their events in order.
Indentation, blank lines and comments do not matter. -/
theorem ofDiagram_written (m : Machine) (h : m.IsWritable) :
    ofDiagram m.toDiagram = m ∧
      ∀ text, IsLaidOut (m.statements.map Statement.written) (lines text) → ofDiagram text = m := by
  have hread : ∀ text, IsLaidOut (m.statements.map Statement.written) (lines text) →
      ofDiagram text = m := by
    intro text hlay
    have hmeaning := isMeaningOf_ofDiagram text
    rw [Statement.ofDiagram, ← Statement.ofLine?_eq_byFirstRule?,
      filterMap_ofLine?_of_isLaidOut hlay fun _ => h.isWritable_of_mem] at hmeaning
    exact hmeaning.unique h.isMeaningOf_statements
  refine ⟨hread _ ?_, hread⟩
  rw [lines_toDiagram h]
  exact isLaidOut_self _

lemma isWritable_default : Workflow.default.toMachine.IsWritable := by
  have hevents : ∀ e ∈ Workflow.default.states.entries, ∀ event ∈ e.2.on.names,
      event ≠ [] ∧ event.all isWordChar = true := by decide
  have hwords : ∀ name state, Workflow.default.states.get? name = some state →
      ∀ event ∈ state.on.names, event ≠ [] ∧ AllIn isWordChar event := by
    intro name state hstate event hevent
    obtain ⟨hne, hall⟩ := hevents _ (Catalog.get?_eq_some_iff.mp hstate) event hevent
    exact ⟨hne, List.all_eq_true.mp hall⟩
  refine ⟨?_, by decide, closed_default.target_mem, ?_, ?_⟩
  · have hnames : ∀ name ∈ Workflow.default.states.names,
        name ≠ [] ∧ name.all isWordChar = true := by decide
    intro name hname
    obtain ⟨hne, hall⟩ := hnames name hname
    exact ⟨hne, List.all_eq_true.mp hall⟩
  · intro name state hstate event hevent
    obtain ⟨hne, hall⟩ := hwords name state hstate event hevent
    exact ⟨hne, trimmed_of_allIn_isWordChar hall,
      Statement.not_mem_of_allIn_isWordChar hall (by decide)⟩
  · intro name state hstate event hevent
    have hall := (hwords name state hstate event hevent).2
    exact (Statement.not_contains_of_not_mem
      (Statement.not_mem_of_allIn_isWordChar hall (by decide))).1

/-- The default workflow is read back, also from lines that are indented and commented. -/
theorem ofDiagram_written_default :
    ofDiagram Workflow.default.toMachine.toDiagram = Workflow.default.toMachine ∧
      ofDiagram (List.intercalate ['\n'] (["state idle", "  state processing", "",
        "state completed", "state failed", "%% events", "\tidle --> processing : ORDER_RECEIVED",
        "processing --> completed : COMPLETED", "processing --> failed : FAILED",
        "completed --> [*]", "failed --> [*]", "", "[*] --> idle", ""].map String.toList)) =
        Workflow.default.toMachine := by
  obtain ⟨hplain, hread⟩ := ofDiagram_written Workflow.default.toMachine isWritable_default
  exact ⟨hplain, hread _ (isLaidOut_of_trim (by decide +kernel))⟩

end Machine

end Statechart
