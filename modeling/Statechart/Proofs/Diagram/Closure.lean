import Statechart.Document
import Statechart.Proofs.Diagram.Grammar
import Statechart.Proofs.Diagram.Views

/-!
# Machines of diagrams are closed

Whatever a diagram says, its machine never leaves its own states: every transition leads to a state,
every final mark is on a state, and the machine starts in one of its states.  Names are words and
events are trimmed texts on one line.  `Draft.WellFormed` says this of a draft; it holds before
the first line, every statement that a line can make preserves it (`Draft.WellFormed.add`), and so
it holds after any number of lines of any diagram.

`Machine.Closed` is what is left of it for the machine of a document, the default workflow
included.
-/

namespace Statechart

open Text

/-! ## Events -/

namespace Text

/-- The upper case of a word character is one word character. -/
lemma upperChar_of_isWordChar {c : Char} (h : isWordChar c = true) :
    upperChar c = [c.toUpper] ∧ isWordChar c.toUpper = true := by
  have hlt : c.toNat < 128 := by
    have hrange := toNat_le_of_isWordChar h
    omega
  have hall : ∀ n < 128, isWordChar (Char.ofNat n) = true →
      isWordChar (Char.ofNat n).toUpper = true := by decide
  have hc := hall c.toNat hlt
  rw [Char.ofNat_toNat] at hc
  exact ⟨if_pos hlt, hc h⟩

lemma allIn_upper {s : Text} (h : AllIn isWordChar s) : AllIn isWordChar (upper s) := by
  intro c hc
  obtain ⟨d, hd, hcd⟩ := List.mem_flatMap.mp hc
  obtain ⟨hupper, hword⟩ := upperChar_of_isWordChar (h d hd)
  rw [hupper, List.mem_singleton] at hcd
  rw [hcd]
  exact hword

lemma trimmed_of_allIn_isWordChar {s : Text} (h : AllIn isWordChar s) : Trimmed s :=
  ⟨fun c hc => isBlank_eq_false_of_isWordChar (h c (List.mem_of_mem_head? hc)),
    fun c hc => isBlank_eq_false_of_isWordChar (h c (List.mem_of_mem_getLast? hc))⟩

end Text

namespace Statement

/-- The name of an event: a text on one line that is not empty and needs no trimming. -/
structure IsEvent (event : Text) : Prop where
  /-- It is not empty. -/
  ne_nil : event ≠ []
  /-- It has no blanks at its ends. -/
  trimmed : Trimmed event
  /-- It holds no line feed. -/
  no_line_feed : '\n' ∉ event

instance (event : Text) : Decidable (IsEvent event) :=
  decidable_of_iff (event ≠ [] ∧ Trimmed event ∧ '\n' ∉ event)
    ⟨fun ⟨h₁, h₂, h₃⟩ => ⟨h₁, h₂, h₃⟩, fun ⟨h₁, h₂, h₃⟩ => ⟨h₁, h₂, h₃⟩⟩

lemma allIn_unlabelledEvent {target : Text} (h : IsWord target) :
    AllIn isWordChar (unlabelledEvent target) := by
  unfold unlabelledEvent
  simp only [allIn_cons]
  exact ⟨by decide, by decide, by decide, allIn_upper h.2⟩

lemma isEvent_unlabelledEvent {target : Text} (h : IsWord target) :
    IsEvent (unlabelledEvent target) := by
  have hword := allIn_unlabelledEvent h
  refine ⟨by simp [unlabelledEvent], trimmed_of_allIn_isWordChar hword, ?_⟩
  intro hfeed
  exact absurd (hword _ hfeed) (by decide)

/-- The event of a transition on one line is the name of an event. -/
lemma EventOf.isEvent {target tail event : Text} (h : EventOf target tail event)
    (htarget : IsWord target) (hline : '\n' ∉ tail) : IsEvent event := by
  cases h with
  | labelled htail hblanks hlabel =>
    refine ⟨hlabel, trimmed_trim _, fun hfeed => hline ?_⟩
    rw [htail]
    simp [mem_of_mem_trim hfeed]
  | unlabelled hnone => exact isEvent_unlabelledEvent htarget

/-- A statement that a line of a diagram can make. -/
structure WellFormed (st : Statement) : Prop where
  /-- The states that it mentions have words as names. -/
  isWord : ∀ name ∈ st.mentioned, IsWord name
  /-- The event of a transition is the name of an event. -/
  isEvent : ∀ source target event, st = .transition source target event → IsEvent event

/-- What is known of a text that says a transition. -/
lemma Says.of_transition {s source target event : Text}
    (h : Says s (.transition source target event)) :
    ¬ Contains InitialPlace s ∧ ∃ before tail, s = before ++ tail ∧ IsWord target ∧
      EventOf target tail event := by
  cases h with
  | initial h =>
    obtain ⟨_, -, hst⟩ := exists_initial_of_atLeftmost h
    exact absurd hst (by simp)
  | transition h₁ h =>
    obtain ⟨before, _, hs, ⟨-, a, link, b, tail, e, rfl, -, -, hword, -, hevent, hst⟩, -⟩ := h
    obtain ⟨rfl, rfl, rfl⟩ := Statement.transition.inj hst
    exact ⟨h₁, before ++ (source ++ link ++ target), tail, by simp [hs], hword, hevent⟩
  | final _ _ h =>
    obtain ⟨_, -, hst⟩ := exists_final_of_atLeftmost h
    exact absurd hst (by simp)
  | declaration _ _ _ h =>
    obtain ⟨_, -, hst⟩ := exists_declaration_of_atLeftmost h
    exact absurd hst (by simp)

/-- The event of a transition comes from the text behind the target. -/
lemma LineSays.exists_tail {line source target event : Text}
    (h : LineSays line (.transition source target event)) :
    ∃ tail, IsWord target ∧ EventOf target tail event ∧ ∀ c ∈ tail, c ∈ line := by
  obtain ⟨-, before, tail, hs, hword, hevent⟩ := h.2.2.of_transition
  refine ⟨tail, hword, hevent, fun c hc => mem_of_mem_trim ?_⟩
  rw [hs]
  exact List.mem_append_right before hc

lemma LineSays.wellFormed {line : Text} {st : Statement} (h : LineSays line st)
    (hline : '\n' ∉ line) : st.WellFormed where
  isWord _ hname := isWord_of_lineSays h hname
  isEvent source target event := by
    rintro rfl
    obtain ⟨tail, hword, hevent, htail⟩ := h.exists_tail
    exact hevent.isEvent hword fun hfeed => hline (htail _ hfeed)

end Statement

/-! ## Drafts -/

namespace Draft

/-- Transitions lead to states, marks are on states, the machine starts in a state, and names and
events are written as they should be. -/
structure WellFormed (d : Draft) : Prop where
  /-- Every transition leads to a state that was mentioned. -/
  target_mem : ∀ name event target, (d.on name).get? event = some target → target ∈ d.names
  /-- Every state marked as final was mentioned. -/
  final_mem : ∀ name ∈ d.finals, name ∈ d.names
  /-- The initial state, if there is one, was mentioned. -/
  initial_mem : ∀ name, d.initial = some name → name ∈ d.names
  /-- Every state has a word as its name. -/
  isWord : ∀ name ∈ d.names, IsWord name
  /-- No state is there twice. -/
  nodup : d.names.Nodup
  /-- Every event is written as an event should be. -/
  isEvent : ∀ name, ∀ event ∈ (d.on name).names, Statement.IsEvent event

variable {d : Draft}

lemma wellFormed_nil : WellFormed {} where
  target_mem _ _ _ h := absurd h (by simp [on])
  final_mem _ h := absurd h List.not_mem_nil
  initial_mem _ h := absurd h (by simp)
  isWord _ h := absurd h List.not_mem_nil
  nodup := List.nodup_nil
  isEvent _ _ h := absurd h (by simp [on])

lemma WellFormed.mention (h : d.WellFormed) {name : Text} (hname : IsWord name) :
    (d.mention name).WellFormed where
  target_mem other event target htarget := by
    rw [on_mention] at htarget
    exact mem_names_mention.mpr (.inl (h.target_mem other event target htarget))
  final_mem other hother := mem_names_mention.mpr (.inl (h.final_mem other hother))
  initial_mem other hother := mem_names_mention.mpr (.inl (h.initial_mem other hother))
  isWord other hother := by
    rcases mem_names_mention.mp hother with hmem | rfl
    · exact h.isWord other hmem
    · exact hname
  nodup := Catalog.nodup_names _
  isEvent other event hevent := by
    rw [on_mention] at hevent
    exact h.isEvent other event hevent

/-- Adding a transition between words keeps a draft well formed. -/
lemma WellFormed.addTransition (h : d.WellFormed) {source target event : Text}
    (hsource : IsWord source) (htarget : IsWord target) (hevent : Statement.IsEvent event) :
    (d.addTransition source target event).WellFormed := by
  have hmention := (h.mention hsource).mention htarget
  have hnames := names_addTransition (d := d) source target event
  have htarget_mem : target ∈ (d.addTransition source target event).names := by
    rw [hnames]
    exact mem_names_mention.mpr (.inr rfl)
  refine ⟨?_, ?_, ?_, ?_, Catalog.nodup_names _, ?_⟩
  · intro name e t ht
    rw [on_addTransition] at ht
    split at ht
    · rw [Catalog.get?_insert] at ht
      split at ht
      · exact Option.some.inj ht ▸ htarget_mem
      · rw [hnames]
        exact hmention.target_mem source e t (by rw [on_mention, on_mention]; exact ht)
    · rw [hnames]
      exact hmention.target_mem name e t (by rw [on_mention, on_mention]; exact ht)
  · intro name hname
    rw [hnames]
    exact hmention.final_mem name hname
  · intro name hname
    rw [hnames]
    exact hmention.initial_mem name hname
  · intro name hname
    rw [hnames] at hname
    exact hmention.isWord name hname
  · intro name e he
    rw [on_addTransition] at he
    split at he
    · rcases Catalog.mem_names_revise.mp he with hmem | rfl
      · exact h.isEvent source e hmem
      · exact hevent
    · exact h.isEvent name e he

lemma WellFormed.markFinal (h : d.WellFormed) {name : Text} (hname : IsWord name) :
    (d.markFinal name).WellFormed := by
  have hmention := h.mention hname
  refine ⟨hmention.target_mem, ?_, hmention.initial_mem, hmention.isWord, hmention.nodup,
    hmention.isEvent⟩
  intro other hother
  rcases mem_finals_markFinal.mp hother with rfl | hmem
  · exact mem_names_mention.mpr (.inr rfl)
  · exact hmention.final_mem other hmem

lemma WellFormed.setInitial (h : d.WellFormed) {name : Text} (hname : IsWord name) :
    (Draft.mention { d with initial := some name } name).WellFormed := by
  have hmention := h.mention hname
  refine ⟨hmention.target_mem, hmention.final_mem, ?_, hmention.isWord, hmention.nodup,
    hmention.isEvent⟩
  intro other hother
  obtain rfl : name = other := Option.some.inj hother
  exact mem_names_mention.mpr (.inr rfl)

/-- Taking in a well-formed statement keeps a draft well formed. -/
theorem WellFormed.add (h : d.WellFormed) {st : Statement} (hst : st.WellFormed) :
    (d.add st).WellFormed := by
  cases st with
  | initial name => exact h.setInitial (hst.isWord name (by simp [Statement.mentioned]))
  | transition source target event =>
    exact h.addTransition (hst.isWord source (by simp [Statement.mentioned]))
      (hst.isWord target (by simp [Statement.mentioned])) (hst.isEvent source target event rfl)
  | final name => exact h.markFinal (hst.isWord name (by simp [Statement.mentioned]))
  | declaration name => exact h.mention (hst.isWord name (by simp [Statement.mentioned]))

lemma WellFormed.readLine (h : d.WellFormed) {line : Text} (hline : '\n' ∉ line) :
    (d.readLine line).WellFormed := by
  unfold Draft.readLine
  cases hst : Statement.ofLine? line with
  | none => exact h
  | some st => exact h.add ((Statement.ofLine?_eq_some_iff.mp hst).wellFormed hline)

/-- Reading lines keeps a draft well formed. -/
lemma WellFormed.foldl_readLine (h : d.WellFormed) {lines : List Text}
    (hlines : ∀ line ∈ lines, '\n' ∉ line) : (lines.foldl Draft.readLine d).WellFormed := by
  induction lines generalizing d with
  | nil => exact h
  | cons line lines ih =>
    obtain ⟨hline, hrest⟩ := List.forall_mem_cons.mp hlines
    exact ih (h.readLine hline) hrest

/-- After any number of lines of a diagram the draft is well formed. -/
lemma wellFormed_ofLines_take (diagram : Text) (n : ℕ) :
    (ofLines ((lines diagram).take n)).WellFormed :=
  wellFormed_nil.foldl_readLine fun _ hline => not_mem_of_mem_lines (List.mem_of_mem_take hline)

end Draft

/-! ## Machines -/

namespace Machine

/-- Transitions lead to states, and the machine starts in a state if it has one. -/
structure Closed (m : Machine) : Prop where
  /-- Every transition leads to a state. -/
  target_mem : ∀ name state, m.states.get? name = some state →
    ∀ event target, state.on.get? event = some target → target ∈ m.states.names
  /-- A machine with states starts in one of them. -/
  initial_mem : m.states.names ≠ [] → m.initial ∈ m.states.names
  /-- A machine without states is said to start in `idle`. -/
  initial_idle : m.states.names = [] → m.initial = idle

lemma closed_default : Workflow.default.toMachine.Closed := by
  have hentries : ∀ e ∈ Workflow.default.states.entries, ∀ f ∈ e.2.on.entries,
      f.2 ∈ Workflow.default.states.names := by decide
  refine ⟨?_, by decide, by decide⟩
  intro name state hstate event target htarget
  exact hentries _ (Catalog.mem_entries_of_get?_eq_some hstate) _
    (Catalog.mem_entries_of_get?_eq_some htarget)

end Machine

/-- A well-formed draft closes to a closed machine. -/
lemma Draft.WellFormed.closed_toMachine {d : Draft} (h : d.WellFormed) : d.toMachine.Closed := by
  have hinitial : d.toMachine.initial ∈ d.names ∨
      d.toMachine.initial = d.names.headD Machine.idle := by
    change (d.initial.filter _).getD _ ∈ _ ∨ (d.initial.filter _).getD _ = _
    cases hfilter : d.initial.filter (· ≠ []) with
    | none => exact .inr rfl
    | some name => exact .inl (h.initial_mem name (Option.filter_eq_some_iff.mp hfilter).1)
  refine ⟨?_, ?_, ?_⟩
  · intro name state hstate event target htarget
    obtain ⟨-, rfl⟩ := Draft.get?_toMachine_eq_some_iff.mp hstate
    rw [Draft.names_toMachine]
    exact h.target_mem name event target htarget
  · rw [Draft.names_toMachine]
    intro hne
    rcases hinitial with hmem | heq
    · exact hmem
    · obtain ⟨first, rest, hnames⟩ := List.exists_cons_of_ne_nil hne
      rw [heq, hnames]
      exact List.mem_cons_self
  · rw [Draft.names_toMachine]
    intro hnil
    rw [hnil] at hinitial
    rcases hinitial with hmem | heq
    · exact absurd hmem List.not_mem_nil
    · exact heq

lemma Machine.closed_ofDiagram (diagram : Text) : (Machine.ofDiagram diagram).Closed := by
  have h := Draft.wellFormed_ofLines_take diagram (lines diagram).length
  rw [List.take_length] at h
  exact h.closed_toMachine

/-- A document that describes a machine has a diagram of this machine. -/
lemma Document.exists_diagram_of_describes {markdown : Text} {m : Machine}
    (h : Document.describes markdown = .machine m) : ∃ diagram, m = Machine.ofDiagram diagram := by
  unfold Document.describes at h
  split at h
  · exact absurd h (by simp)
  · next diagram _ =>
    split at h
    · exact ⟨diagram, (Document.Content.machine.inj h).symm⟩
    · exact absurd h (by simp)

/-- The draft of any number of lines of a diagram is well formed, and the workflow of any document
is closed. -/
theorem wellFormed_drafts_and_closed_workflows :
    (∀ (diagram : Text) (n : ℕ), (Draft.ofLines ((lines diagram).take n)).WellFormed) ∧
      ∀ markdown : Text, (Document.workflow markdown).toMachine.Closed := by
  refine ⟨Draft.wellFormed_ofLines_take, fun markdown => ?_⟩
  unfold Document.workflow
  cases h : Document.describes markdown with
  | nothing => exact Machine.closed_default
  | otherDiagram length => exact Machine.closed_default
  | machine m =>
    obtain ⟨diagram, rfl⟩ := Document.exists_diagram_of_describes h
    exact Machine.closed_ofDiagram diagram

end Statechart
