import Statechart.Proofs.Diagram.Arrows
import Statechart.Proofs.Diagram.Increment

/-!
# Labels

Two kinds of line carry a label, which is any text: a transition names its event, and a declaration
may show a name of its own for the state.  Both labels are searched by the rules for arrows before
the line is read by its own rule, so they are not quite free.

`Machine.ofDiagram_append_transition_iff` says which events are: a transition adds itself to the
machine and nothing else if and only if its event holds no initial marker.  For the label of a
declaration, which none of the first three rules may fit, it is
`Machine.ofDiagram_append_labelled_iff`.  After each theorem stands a line that shows what happens
to other labels.
-/

namespace Statechart

open Text

namespace Statement

variable {s source target event label name : Text} {st : Statement}

/-! ## Events -/

/-- The event of a transition that a text says holds no initial marker. -/
lemma Says.not_contains_event (h : Says s (.transition source target event)) :
    ¬ Contains InitialPlace event := by
  obtain ⟨hmarker, before, tail, rfl, hword, hevent⟩ := h.of_transition
  cases hevent with
  | @labelled blanks label htail hblanks hlabel =>
    obtain ⟨a, b, hlabel, -, -, -⟩ := exists_append_trim_append label
    rw [contains_initialPlace_iff] at hmarker ⊢
    refine fun hevent => hmarker (hevent.mono ⟨before ++ blanks ++ ':' :: a, b, ?_⟩)
    conv_rhs => rw [htail, hlabel]
    simp
  | unlabelled hnone =>
    exact (not_contains_of_not_mem (not_mem_of_allIn_isWordChar (allIn_unlabelledEvent hword)
      (by decide))).1

end Statement

namespace Machine

variable {m : Machine} {d source target event label name : Text} {state : State}

/-- No event of the machine of a diagram holds an initial marker. -/
theorem not_contains_of_mem_events (hstate : (ofDiagram d).states.get? name = some state)
    (h : event ∈ state.on.names) : ¬ Contains Statement.InitialPlace event := by
  obtain ⟨target, hst⟩ := (isMeaningOf_ofDiagram d).exists_transition hstate h
  obtain ⟨line, -, hline⟩ := List.mem_filterMap.mp hst
  rw [← Statement.ofLine?_eq_byFirstRule?] at hline
  obtain ⟨-, -, hsays⟩ := Statement.ofLine?_eq_some_iff.mp hline
  exact hsays.not_contains_event

lemma get?_changeState (f : State → State) : (m.changeState name f).states.get? name =
    some (f ((m.states.get? name).getD {})) := by
  unfold changeState
  rw [Catalog.get?_revise, if_pos rfl]

lemma exists_state_addTransition (m : Machine) (source target event : Text) : ∃ state,
    (m.addTransition source target event).states.get? source = some state ∧
      state.on.get? event = some target := by
  refine ⟨_, get?_changeState _, ?_⟩
  rw [Catalog.get?_insert, if_pos rfl]

/-- A line `Source --> Target : Event` behind a diagram adds the transition and nothing else, unless
its event holds an initial marker. -/
theorem ofDiagram_append_transition_iff (text : Text) (hsource : IsWord source)
    (htarget : IsWord target) (hevent : Statement.IsEvent event) :
    ofDiagram (text ++ '\n' :: (Statement.transition source target event).written) =
        (ofDiagram text).addTransition source target event ↔
      ¬ Contains Statement.InitialPlace event := by
  constructor
  · intro heq
    obtain ⟨state, hstate, hget⟩ :=
      exists_state_addTransition (ofDiagram text) source target event
    rw [← heq] at hstate
    exact not_contains_of_mem_events hstate (Catalog.mem_names_of_get?_eq_some hget)
  · intro hmarker
    have hst := Statement.isWritable_transition hsource htarget hevent hmarker
    have hread : Statement.ofLine? (Statement.transition source target event).written =
        some (.transition source target event) := by
      simpa using Statement.ofLine?_written hst allIn_nil allIn_nil
    exact ofDiagram_append_line (Statement.no_line_feed_written hst.toWellFormed) hread

/-- An event may look like any other line of a diagram. -/
theorem ofDiagram_append_transition_arrows :
    let event := "x --> [*] : state \"y\" as [*]-->".toList
    IsWord ['A'] ∧ IsWord ['B'] ∧ Statement.IsEvent event ∧
      ofDiagram "[*] --> A\nA --> B : x --> [*] : state \"y\" as [*]-->".toList =
        (ofDiagram "[*] --> A".toList).addTransition ['A'] ['B'] event := by
  intro event
  have hsource : IsWord ['A'] := by decide
  have htarget : IsWord ['B'] := by decide
  have hevent : Statement.IsEvent event := by decide
  exact ⟨hsource, htarget, hevent, (ofDiagram_append_transition_iff "[*] --> A".toList hsource
    htarget hevent).mpr (by decide)⟩

/-- An event that holds an initial marker is lost with its transition, and moves the start of the
machine. -/
theorem ofDiagram_append_transition_marker :
    Statement.IsEvent "[*] --> C".toList ∧
      ofDiagram "[*] --> A\nA --> B : [*] --> C".toList =
        (ofDiagram "[*] --> A".toList).startIn ['C'] ∧
      ofDiagram "[*] --> A\nA --> B : [*] --> C".toList ≠
        (ofDiagram "[*] --> A".toList).addTransition ['A'] ['B'] "[*] --> C".toList := by
  refine ⟨by decide, ?_, ?_⟩
  · decide +kernel
  · decide +kernel

end Machine

/-! ## Names for show -/

namespace Statement

variable {s label name : Text} {st : Statement}

/-- A declaration with a label, as a line of a diagram. -/
def labelled (label name : Text) : Text :=
  declares ++ (' ' :: '"' :: (label ++ ('"' :: ' ' :: («as» ++ (' ' :: name)))))

/-- The rules for arrows fit a declaration where they fit its label. -/
lemma fitsArrow_labelled_iff (hname : IsWord name) :
    FitsArrow (labelled label name) ↔ FitsArrow label := by
  have hsplit : labelled label name =
      (declares ++ [' ']) ++ '"' :: (label ++ '"' :: (' ' :: («as» ++ (' ' :: name)))) := by
    simp [labelled]
  have hfront : '>' ∉ declares ++ [' '] := by decide
  have hback : '>' ∉ ' ' :: («as» ++ (' ' :: name)) := by
    simp [«as», not_mem_of_allIn_isWordChar hname.2 (c := '>') (by decide)]
  constructor
  · rw [hsplit]
    intro h
    rcases h.of_quote with hdeclares | h
    · exact absurd hdeclares.mem hfront
    · exact h.of_quote.resolve_right fun has => hback has.mem
  · intro h
    refine h.mono ⟨declares ++ [' ', '"'], '"' :: ' ' :: («as» ++ (' ' :: name)), ?_⟩
    simp [labelled]

/-- A text that one of the first three rules fits says no declaration. -/
lemma FitsArrow.exists_says (h : FitsArrow s) :
    ∃ st, Says s st ∧ ∀ name, st ≠ .declaration name := by
  by_cases h₁ : Contains InitialPlace s
  · obtain ⟨st, hst⟩ := h₁.exists_atLeftmost
    obtain ⟨name, -, rfl⟩ := exists_initial_of_atLeftmost hst
    exact ⟨_, .initial hst, by simp⟩
  · by_cases h₂ : Contains TransitionPlace s
    · obtain ⟨st, hst⟩ := h₂.exists_atLeftmost
      obtain ⟨source, target, event, -, -, rfl⟩ := exists_transition_of_atLeftmost hst
      exact ⟨_, .transition h₁ hst, by simp⟩
    · have h₃ : Contains FinalPlace s := (h.resolve_left h₁).resolve_left h₂
      obtain ⟨st, hst⟩ := h₃.exists_atLeftmost
      obtain ⟨name, -, rfl⟩ := exists_final_of_atLeftmost hst
      exact ⟨_, .final h₁ h₂ hst, by simp⟩

/-- A declaration is read by its own rule if no rule for arrows fits. -/
lemma says_labelled (hlabel : label ≠ []) (hquote : '"' ∉ label) (hname : IsWord name)
    (h : ¬ FitsArrow label) : Says (labelled label name) (.declaration name) := by
  rw [← fitsArrow_labelled_iff hname] at h
  obtain ⟨h₁, h₂, h₃⟩ : ¬ Contains InitialPlace (labelled label name) ∧
      ¬ Contains TransitionPlace (labelled label name) ∧
        ¬ Contains FinalPlace (labelled label name) := by
    simpa only [FitsArrow, not_or] using h
  have hspace : AllIn isAsciiBlank [' '] := allIn_singleton.mpr (by decide)
  have hne : [' '] ≠ [] := List.cons_ne_nil _ _
  exact .declaration h₁ h₂ h₃ (atLeftmost_of_start
    ⟨[' '], '"' :: label ++ '"' :: [' '] ++ «as» ++ [' '], name, [], by simp [labelled], hne,
      hspace, .inr ⟨label, [' '], [' '], rfl, hlabel, hquote, hne, hspace, hne, hspace⟩, hname,
      startsOutside_nil, rfl⟩)

lemma no_line_feed_labelled (hfeed : '\n' ∉ label) (hname : IsWord name) :
    '\n' ∉ labelled label name := by
  have hword : '\n' ∉ name := not_mem_of_allIn_isWordChar hname.2 (by decide)
  simp [labelled, declares, «as», hfeed, hword]

lemma ofLine?_labelled (hname : IsWord name) (h : Says (labelled label name) st) :
    ofLine? (labelled label name) = some st := by
  have hend : EndsOutside isBlank (labelled label name) := by
    have hback := endsOutside_of_isWord hname
      (declares ++ (' ' :: '"' :: (label ++ ('"' :: ' ' :: («as» ++ [' '])))))
    simpa [labelled] using hback
  have htrimmed : Trimmed (labelled label name) := ⟨startsOutside_cons.mpr (by decide), hend⟩
  simpa using ofLine?_of_says htrimmed rfl (by decide) h allIn_nil allIn_nil

end Statement

namespace Machine

variable {st : Statement} {label name : Text}

/-- Only a declaration mentions a state and does nothing else, whatever the machine. -/
lemma exists_add_ne_mention (hst : ∀ other, st ≠ .declaration other) (name : Text) :
    ∃ d, (ofDiagram d).add st ≠ (ofDiagram d).mention name := by
  -- A machine that has other states so far shows where the start goes; all else shows on no states.
  have hempty : ∀ state other, ((ofDiagram []).mention name).states.get? other = some state →
      state = {} := by
    intro state other hstate
    change (Catalog.ensure ∅ name {}).get? other = some state at hstate
    rw [Catalog.get?_ensure] at hstate
    split at hstate
    · exact (Option.some.inj hstate).symm
    · exact absurd hstate (by simp)
  cases st with
  | initial start =>
    have hstart : ∀ d first, (ofDiagram d).states.names = [first] →
        (ofDiagram d).initial = first → start ≠ first →
          (ofDiagram d).add (.initial start) ≠ (ofDiagram d).mention name := by
      intro d first hnames hinitial hne heq
      have hmoved : start = ((ofDiagram d).mention name).initial := congrArg Machine.initial heq
      unfold mention at hmoved
      rw [if_neg (by simp [hnames]), hinitial] at hmoved
      exact hne hmoved
    by_cases hA : start = ['A']
    · exact ⟨"state B".toList, hstart _ ['B'] (by decide) (by decide) (by simp [hA])⟩
    · exact ⟨"state A".toList, hstart _ ['A'] (by decide) (by decide) hA⟩
  | transition source target event =>
    refine ⟨[], fun heq => ?_⟩
    obtain ⟨state, hstate, hget⟩ := exists_state_addTransition (ofDiagram []) source target event
    change (ofDiagram []).addTransition source target event = _ at heq
    rw [heq] at hstate
    rw [hempty state source hstate] at hget
    exact absurd hget (by simp)
  | final other =>
    refine ⟨[], fun heq => ?_⟩
    have hstate : ((ofDiagram []).markFinal other).states.get? other = some _ :=
      get?_changeState _
    change (ofDiagram []).markFinal other = _ at heq
    rw [heq] at hstate
    exact absurd (congrArg State.isFinal (hempty _ other hstate)) (by simp)
  | declaration other => exact absurd rfl (hst other)

/-- A line `state "Label" as Name` behind a diagram mentions the state and does nothing else,
whatever the diagram, unless one of the rules for arrows fits its label. -/
theorem ofDiagram_append_labelled_iff (hlabel : label ≠ []) (hquote : '"' ∉ label)
    (hfeed : '\n' ∉ label) (hname : IsWord name) :
    (∀ text, ofDiagram (text ++ '\n' :: Statement.labelled label name) =
        (ofDiagram text).mention name) ↔ ¬ Statement.FitsArrow label := by
  have hline := Statement.no_line_feed_labelled hfeed hname
  constructor
  · intro h hfits
    rw [← Statement.fitsArrow_labelled_iff hname] at hfits
    obtain ⟨st, hsays, hst⟩ := hfits.exists_says
    obtain ⟨d, hd⟩ := exists_add_ne_mention hst name
    rw [← h d, ofDiagram_append_line hline (Statement.ofLine?_labelled hname hsays)] at hd
    exact hd rfl
  · intro hfits text
    have hsays := Statement.says_labelled hlabel hquote hname hfits
    exact ofDiagram_append_line hline (Statement.ofLine?_labelled hname hsays)

/-- A label may hold arrows that have no ends. -/
theorem ofDiagram_append_labelled_arrows :
    let label := "[*] --> -> state A,\t--> B".toList
    label ≠ [] ∧ '"' ∉ label ∧ '\n' ∉ label ∧ IsWord ['C'] ∧
      ofDiagram "[*] --> S\nstate \"[*] --> -> state A,\t--> B\" as C".toList =
        (ofDiagram "[*] --> S".toList).mention ['C'] := by
  intro label
  have hlabel : label ≠ [] := by decide
  have hquote : '"' ∉ label := by decide
  have hfeed : '\n' ∉ label := by decide
  have hname : IsWord ['C'] := by decide
  exact ⟨hlabel, hquote, hfeed, hname,
    (ofDiagram_append_labelled_iff hlabel hquote hfeed hname).mpr (by decide) "[*] --> S".toList⟩

/-- A label that looks like a transition is read as one, and the state that the line declares is not
mentioned. -/
theorem ofDiagram_append_labelled_transition :
    ofDiagram "[*] --> S\nstate \"A --> B\" as C".toList =
        (ofDiagram "[*] --> S".toList).addTransition ['A'] ['B'] "TO_B".toList ∧
      ofDiagram "[*] --> S\nstate \"A --> B\" as C".toList ≠
        (ofDiagram "[*] --> S".toList).mention ['C'] := by
  refine ⟨?_, ?_⟩
  · decide +kernel
  · decide +kernel

end Machine

end Statechart
