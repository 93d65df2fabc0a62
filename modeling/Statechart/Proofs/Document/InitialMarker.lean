import Mathlib.Data.List.Basic
import Statechart.Proofs.Diagram.Arrows
import Statechart.Proofs.Diagram.Closure
import Statechart.Proofs.Document.Enclosed
import Statechart.Proofs.Text.MaximalRun

/-!
# The initial marker of a diagram

Two readers look for the marker `[*] -->`.  A document is a state diagram if the marker stands
anywhere in it, and a line names the start of the machine if the marker stands in it with a name
behind it.  The first one lets any blank stand between the two halves of the marker, over lines
even; the second one wants ASCII blanks on a single line.

So whatever the second one reads the first one accepts, and no document whose diagram names a start
is taken for something else (`Document.workflow_of_initial`).  The converse depends on the blanks: a
marker with a name behind it is sure to give the machine a state if and only if its blanks are in
ASCII (`Document.starts_in_state_iff`).
-/

namespace Statechart

open Text

variable {s d line name gap spaces : Text} {st : Statement}

namespace Statement

/-! ## Lines that name the start -/

/-- Only the first rule reads an initial statement. -/
lemma Says.of_initial (h : Says s (.initial name)) : AtLeftmost InitialPlace s (.initial name) := by
  cases h with
  | initial h => exact h
  | transition _ h =>
    obtain ⟨_, _, _, -, -, hst⟩ := exists_transition_of_atLeftmost h
    exact absurd hst (by simp)
  | final _ _ h =>
    obtain ⟨_, -, hst⟩ := exists_final_of_atLeftmost h
    exact absurd hst (by simp)
  | declaration _ _ _ h =>
    obtain ⟨_, -, hst⟩ := exists_declaration_of_atLeftmost h
    exact absurd hst (by simp)

/-- A line that names the start holds the marker and the name. -/
lemma holdsArrow_of_ofLine?_eq_initial (h : ofLine? line = some (.initial name)) :
    HoldsArrow (· = outside) IsWord line := by
  obtain ⟨-, -, hsays⟩ := ofLine?_eq_some_iff.mp h
  have hcontains := hsays.of_initial.contains
  exact (contains_initialPlace_iff.mp hcontains).mono (trim_isInfix line)

/-- A line with the marker and a name in it names the start, unless it is a comment. -/
lemma exists_ofLine?_eq_initial (hcomment : (trim line).head? ≠ some '%')
    (h : HoldsArrow (· = outside) IsWord (trim line)) :
    ∃ start, ofLine? line = some (.initial start) := by
  obtain ⟨st, hst⟩ := (contains_initialPlace_iff.mpr h).exists_atLeftmost
  obtain ⟨start, -, rfl⟩ := exists_initial_of_atLeftmost hst
  have hne : trim line ≠ [] := by
    intro hnil
    rw [hnil] at h
    exact absurd h.mem List.not_mem_nil
  exact ⟨start, ofLine?_eq_some_iff.mpr ⟨hne, hcomment, .initial hst⟩⟩

/-- The marker and a name stay when a line is trimmed. -/
lemma HoldsArrow.trim (h : HoldsArrow (· = outside) IsWord line) :
    HoldsArrow (· = outside) IsWord (trim line) := by
  obtain ⟨_, link, name, rfl, hlink, hname, before, after, hline⟩ := h
  obtain ⟨a, b, htrim, ha, hb, -⟩ := exists_append_trim_append line
  have hend : EndsOutside isBlank (outside ++ (link ++ name)) := by
    have hword : EndsOutside isBlank name := (trimmed_of_allIn_isWordChar hname.2).2
    rw [← List.append_assoc]
    exact (endsOutside_append_of_ne_nil hname.1).mpr hword
  have hsplit : a ++ (Text.trim line ++ b) = before ++ (outside ++ (link ++ name) ++ after) := by
    rw [← List.append_assoc, ← htrim, ← hline, List.append_assoc]
  have hne : outside ++ (link ++ name) ≠ [] := List.cons_ne_nil _ _
  have hstart : StartsOutside isBlank (outside ++ (link ++ name)) := startsOutside_cons.mpr rfl
  obtain ⟨x, y, hxy⟩ := exists_between ha hb hne hstart hend hsplit
  exact ⟨outside, link, name, rfl, hlink, hname, x, y, by rw [hxy, List.append_assoc]⟩

end Statement

/-! ## The start of the machine -/

namespace Machine

/-- If a line names the start, the last such line decides. -/
lemma exists_last_initial (hline : line ∈ lines d)
    (hread : Statement.ofLine? line = some (.initial name)) :
    ∃ before last after start, lines d = before ++ last :: after ∧
      Statement.ofLine? last = some (.initial start) ∧
      (∀ other ∈ after, ∀ n, Statement.ofLine? other ≠ some (.initial n)) ∧
      (ofDiagram d).initial = start := by
  let start? := fun line => (Statement.ofLine? line).bind Statement.initialName?
  have hstart : ∀ {line n}, start? line = some n ↔ Statement.ofLine? line = some (.initial n) := by
    intro line n
    simp only [start?, Option.bind_eq_some_iff, Statement.initialName?_eq_some_iff]
    constructor
    · rintro ⟨_, h, rfl⟩
      exact h
    · intro h
      exact ⟨_, h, rfl⟩
  obtain ⟨start, hfound⟩ : ∃ start, (lines d).reverse.findSome? start? = some start := by
    rw [← Option.isSome_iff_exists, List.findSome?_isSome_iff]
    exact ⟨line, List.mem_reverse.mpr hline, by rw [hstart.mpr hread]; rfl⟩
  obtain ⟨after, last, before, hlines, hlast, hafter⟩ := List.findSome?_eq_some_iff.mp hfound
  refine ⟨before.reverse, last, after.reverse, start, ?_, hstart.mp hlast, ?_, ?_⟩
  · rw [← List.reverse_reverse (lines d), hlines]
    simp
  · intro other hother n hread'
    have hnone := hafter other (List.mem_reverse.mp hother)
    rw [hstart.mpr hread'] at hnone
    exact absurd hnone (by simp)
  · have hstatements : (Statement.ofDiagram d).filterMap Statement.initialName? =
        (lines d).filterMap start? := by
      unfold Statement.ofDiagram
      rw [← Statement.ofLine?_eq_byFirstRule?, List.filterMap_filterMap]
    rw [(isMeaningOf_ofDiagram d).initial, hstatements, List.getLast?_filterMap, hfound,
      Option.getD_some]

/-- A machine with a state starts in one of its states. -/
lemma initial_mem_of_mem_names (h : name ∈ (ofDiagram d).states.names) :
    (ofDiagram d).initial ∈ (ofDiagram d).states.names :=
  (closed_ofDiagram d).initial_mem (List.ne_nil_of_mem h)

end Machine

namespace Document

variable {markdown : Text}

/-! ## Diagrams that name a start -/

lemma looksLikeStateDiagram_of_isInfix (hsign : IsSign s) (h : s <:+: d) :
    looksLikeStateDiagram d = true := by
  obtain ⟨before, rest, rfl⟩ := h
  exact looksLikeStateDiagram_iff.mpr ⟨s, before, rest, hsign, List.append_assoc ..⟩

/-- A marker of a line is a marker of the diagram. -/
lemma looksLikeStateDiagram_of_holdsArrow {right : Text → Prop}
    (h : Statement.HoldsArrow (· = Statement.outside) right d) :
    looksLikeStateDiagram d = true := by
  obtain ⟨_, link, b, rfl, ⟨left, blanks, rfl, hleft, -⟩, -, hpart⟩ := h
  have hgap : AllIn isBlank left := fun c hc => isBlank_of_isAsciiBlank (hleft c hc)
  refine looksLikeStateDiagram_of_isInfix (.inr ⟨left, hgap, rfl⟩) (List.IsInfix.trans ?_ hpart)
  exact ⟨[], blanks ++ b, by simp only [List.nil_append, List.append_assoc]⟩

/-- A document whose diagram has a line that names the start describes the machine of its diagram,
and the machine starts where the last such line says. -/
theorem workflow_of_initial (hd : Fence.diagram? markdown = some d) (hline : line ∈ lines d)
    (hread : Statement.ofLine? line = some (.initial name)) :
    looksLikeStateDiagram d = true ∧ describes markdown = .machine (.ofDiagram d) ∧
      workflow markdown = { Machine.ofDiagram d with } ∧
      ∃ before last after start, lines d = before ++ last :: after ∧
        Statement.ofLine? last = some (.initial start) ∧
        (∀ other ∈ after, ∀ n, Statement.ofLine? other ≠ some (.initial n)) ∧
        (workflow markdown).initial = start := by
  have hholds := Statement.holdsArrow_of_ofLine?_eq_initial hread
  have hlooks : looksLikeStateDiagram d = true :=
    looksLikeStateDiagram_of_holdsArrow (hholds.mono (isInfix_of_mem_lines hline))
  have hdescribes : describes markdown = .machine (.ofDiagram d) := by
    unfold describes
    rw [hd]
    exact if_pos hlooks
  have hworkflow : workflow markdown = { Machine.ofDiagram d with } := by
    unfold workflow
    rw [hdescribes]
    rfl
  obtain ⟨before, last, after, start, hlines, hlast, hafter, hinitial⟩ :=
    Machine.exists_last_initial hline hread
  exact ⟨hlooks, hdescribes, hworkflow, before, last, after, start, hlines, hlast, hafter,
    by rw [hworkflow]; exact hinitial⟩

/-- The last of two starts counts, and the diagram needs no header. -/
theorem workflow_of_initial_twice :
    let d := "[*] --> A\nA --> B : x\n%% [*] --> X\n  note [*]\t-->B_1!\nB --> [*]".toList
    let markdown := "# Orders\n```mermaid\n".toList ++ d ++ "\n```\n".toList
    Fence.diagram? markdown = some d ∧ "[*] --> A".toList ∈ lines d ∧
      Statement.ofLine? "[*] --> A".toList = some (.initial ['A']) ∧
      looksLikeStateDiagram d = true ∧ describes markdown = .machine (.ofDiagram d) ∧
      (workflow markdown).initial = "B_1".toList := by
  intro d markdown
  have hd : Fence.diagram? markdown = some d := by decide +kernel
  have hline : "[*] --> A".toList ∈ lines d := by decide
  have hread : Statement.ofLine? "[*] --> A".toList = some (.initial ['A']) := by decide
  obtain ⟨hlooks, hdescribes, hworkflow, -⟩ := workflow_of_initial hd hline hread
  have hinitial : (Machine.ofDiagram d).initial = "B_1".toList := by decide +kernel
  exact ⟨hd, hline, hread, hlooks, hdescribes, by rw [hworkflow]; exact hinitial⟩

/-! ## Markers that name a start -/

/-- A line that is no comment holds a marker with this gap between its halves and, behind these
spaces, a name. -/
def MarksStart (gap spaces d : Text) : Prop :=
  ∃ line ∈ lines d, (trim line).head? ≠ some '%' ∧ ∃ before name after,
    line = before ++
      (Statement.outside ++ (gap ++ (Statement.arrow ++ (spaces ++ (name ++ after))))) ∧
      IsWord name

/-- A marker with ASCII blanks makes the machine start in one of its states. -/
lemma MarksStart.initial_mem (h : MarksStart gap spaces d) (hgap : AllIn isAsciiBlank gap)
    (hspaces : AllIn isAsciiBlank spaces) :
    (Machine.ofDiagram d).initial ∈ (Machine.ofDiagram d).states.names := by
  obtain ⟨line, hline, hcomment, before, name, after, hsplit, hname⟩ := h
  have hlink : Statement.IsLink (gap ++ Statement.arrow ++ spaces) :=
    ⟨gap, spaces, rfl, hgap, hspaces⟩
  have hholds : Statement.HoldsArrow (· = Statement.outside) IsWord line :=
    ⟨Statement.outside, _, name, rfl, hlink, hname, before, after, by
      rw [hsplit]; simp only [List.append_assoc]⟩
  obtain ⟨start, hread⟩ := Statement.exists_ofLine?_eq_initial hcomment hholds.trim
  exact Machine.initial_mem_of_mem_names (Machine.mem_names_ofDiagram_iff.mpr
    ⟨line, hline, _, hread, List.mem_singleton_self start⟩)

/-- The shortest diagram with a given marker. -/
def marker (gap spaces : Text) : Text :=
  Statement.outside ++ (gap ++ (Statement.arrow ++ (spaces ++ ['A'])))

section Marker

variable {left right : Text → Prop}

/-- Besides its blanks the diagram has no characters but those of the shortest marker. -/
lemma not_mem_marker (hgap : AllIn isBlank gap) (hspaces : AllIn isBlank spaces) {c : Char}
    (hblank : isBlank c = false) (hc : c ∉ Statement.outside ++ Statement.arrow ++ ['A']) :
    c ∉ marker gap spaces := by
  intro hmem
  simp only [marker, List.mem_append, hgap.not_mem hblank, hspaces.not_mem hblank,
    false_or] at hmem
  simp only [List.mem_append, or_assoc] at hc
  exact hc hmem

/-- The only arrow of the diagram is the one of its marker. -/
lemma exists_split_of_holdsArrow (hgap : AllIn isBlank gap) (hspaces : AllIn isBlank spaces)
    (h : Statement.HoldsArrow left right (marker gap spaces)) :
    ∃ before a blanks blanks' b after, left a ∧ right b ∧
      AllIn isAsciiBlank blanks ∧ AllIn isAsciiBlank blanks' ∧
      before ++ a ++ blanks = Statement.outside ++ gap ∧
      blanks' ++ (b ++ after) = spaces ++ ['A'] := by
  obtain ⟨a, _, b, ha, ⟨blanks, blanks', rfl, hblanks, hblanks'⟩, hb, before, after, hsplit⟩ := h
  have hhead : isBlank '>' = false := by decide
  have hfront : '>' ∉ Statement.outside ++ gap := by
    simp [Statement.outside, hgap.not_mem hhead]
  have hback : '>' ∉ spaces ++ ['A'] := by simp [hspaces.not_mem hhead]
  have heq : (Statement.outside ++ gap) ++ (Statement.arrow ++ (spaces ++ ['A'])) =
      (before ++ a ++ blanks) ++ (Statement.arrow ++ (blanks' ++ (b ++ after))) := by
    have hmarker : marker gap spaces =
        (Statement.outside ++ gap) ++ (Statement.arrow ++ (spaces ++ ['A'])) := by
      simp [marker]
    rw [← hmarker, ← hsplit]
    simp only [List.append_assoc]
  obtain ⟨hleft, hright⟩ := Statement.append_arrow_inj hfront hback heq
  exact ⟨before, a, blanks, blanks', b, after, ha, hb, hblanks, hblanks', hleft.symm,
    hright.symm⟩

/-- In front of the arrow there is no word. -/
lemma not_holdsArrow_isWord (hgap : AllIn isBlank gap) (hspaces : AllIn isBlank spaces) :
    ¬ Statement.HoldsArrow IsWord right (marker gap spaces) := by
  intro h
  obtain ⟨before, a, blanks, -, -, -, ⟨hne, hword⟩, -, -, -, hfront, -⟩ :=
    exists_split_of_holdsArrow hgap hspaces h
  obtain ⟨c, hc⟩ := List.exists_mem_of_ne_nil a hne
  have hmem : c ∈ Statement.outside ++ gap := by
    rw [← hfront]
    simp [hc]
  have houtside : AllIn (fun c => !isWordChar c) Statement.outside := by decide
  rcases List.mem_append.mp hmem with hmem | hmem
  · have hno : (!isWordChar c) = true := houtside c hmem
    rw [hword c hc] at hno
    exact absurd hno (by decide)
  · have hblank := isBlank_eq_false_of_isWordChar (hword c hc)
    rw [hgap c hmem] at hblank
    exact absurd hblank (by decide)

/-- The blanks of the marker are those of the arrow that is read. -/
lemma allIn_isAsciiBlank_of_holdsArrow (hgap : AllIn isBlank gap) (hspaces : AllIn isBlank spaces)
    (h : Statement.HoldsArrow (· = Statement.outside) IsWord (marker gap spaces)) :
    AllIn isAsciiBlank gap ∧ AllIn isAsciiBlank spaces := by
  obtain ⟨before, _, blanks, blanks', b, after, rfl, hb, hblanks, hblanks', hfront, hback⟩ :=
    exists_split_of_holdsArrow hgap hspaces h
  have hwide : ∀ {x : Text}, AllIn isAsciiBlank x → AllIn isBlank x := fun hx c hc =>
    isBlank_of_isAsciiBlank (hx c hc)
  have hoffside : EndsOutside isBlank (before ++ Statement.outside) :=
    (endsOutside_append_of_ne_nil (by decide)).mpr (by decide)
  have hgap' : blanks = gap :=
    (append_inj_of_endsOutside hoffside (hwide hblanks) (by decide) hgap hfront).2
  have hname : StartsOutside isBlank (b ++ after) :=
    (startsOutside_append_of_ne_nil hb.1).mpr (trimmed_of_allIn_isWordChar hb.2).1
  have hspaces' : blanks' = spaces :=
    (append_inj_of_startsOutside (hwide hblanks') hname hspaces (by decide) hback).1
  exact ⟨hgap' ▸ hblanks, hspaces' ▸ hblanks'⟩

/-- If the diagram has a state, the blanks of its marker are in ASCII. -/
lemma allIn_isAsciiBlank_of_says (hgap : AllIn isBlank gap) (hspaces : AllIn isBlank spaces)
    (h : Statement.Says (marker gap spaces) st) :
    AllIn isAsciiBlank gap ∧ AllIn isAsciiBlank spaces := by
  cases h with
  | initial h =>
    exact allIn_isAsciiBlank_of_holdsArrow hgap hspaces
      (Statement.contains_initialPlace_iff.mp h.contains)
  | transition _ h =>
    exact absurd (Statement.contains_transitionPlace_iff.mp h.contains)
      (not_holdsArrow_isWord hgap hspaces)
  | final _ _ h =>
    exact absurd (Statement.contains_finalPlace_iff.mp h.contains)
      (not_holdsArrow_isWord hgap hspaces)
  | declaration _ _ _ h =>
    obtain ⟨before, rest, -, hsplit, _, _, _, _, rfl, -⟩ := h.contains
    have hmem : 's' ∈ marker gap spaces := by
      rw [hsplit]
      simp [Statement.declares]
    exact absurd hmem (not_mem_marker hgap hspaces (by decide) (by decide))

/-- The diagram is a single line, and trimmed. -/
lemma lines_marker (hfeed : '\n' ∉ gap ++ spaces) :
    lines (marker gap spaces) = [marker gap spaces] := by
  have hmarker : '\n' ∉ marker gap spaces := by
    simpa [marker, Statement.outside, Statement.arrow] using hfeed
  exact pieces_of_not_mem hmarker

lemma trim_marker : trim (marker gap spaces) = marker gap spaces := by
  have hend : EndsOutside isBlank (marker gap spaces) := by
    have hsplit : marker gap spaces =
        (Statement.outside ++ gap ++ Statement.arrow ++ spaces) ++ ['A'] := by
      simp [marker]
    rw [hsplit]
    exact (endsOutside_append_of_ne_nil (List.cons_ne_nil _ _)).mpr (by decide)
  exact trim_eq_self ⟨startsOutside_cons.mpr (by decide), hend⟩

lemma marksStart_marker (hfeed : '\n' ∉ gap ++ spaces) :
    MarksStart gap spaces (marker gap spaces) := by
  refine ⟨marker gap spaces, ?_, ?_, [], ['A'], [], rfl, by decide⟩
  · rw [lines_marker hfeed]
    exact List.mem_singleton_self _
  · rw [trim_marker]
    exact fun h => absurd (Option.some.inj h) (by decide)

lemma looksLikeStateDiagram_marker (hgap : AllIn isBlank gap) :
    looksLikeStateDiagram (marker gap spaces) = true := by
  refine looksLikeStateDiagram_of_isInfix (.inr ⟨gap, hgap, rfl⟩) ⟨[], spaces ++ ['A'], ?_⟩
  simp [marker]

lemma not_occurs_keyword_marker (hgap : AllIn isBlank gap) (hspaces : AllIn isBlank spaces) :
    occurs keyword (marker gap spaces) = false := by
  rw [occurs_eq_false_iff]
  intro before rest heq
  have hmem : 's' ∈ marker gap spaces := by
    rw [heq]
    exact List.mem_append_right _ (List.mem_append_left _ (by decide))
  exact absurd hmem (not_mem_marker hgap hspaces (by decide) (by decide))

end Marker

/-- A marker with a name behind it is sure to start the machine in one of its states if and only if
all blanks in the marker and behind it are in ASCII, although the marker alone makes a document a
state diagram whatever its blanks are. -/
theorem starts_in_state_iff (hgap : AllIn isBlank gap) (hspaces : AllIn isBlank spaces)
    (hfeed : '\n' ∉ gap ++ spaces) :
    (∀ d, occurs keyword d = false → looksLikeStateDiagram d = true → MarksStart gap spaces d →
        (Machine.ofDiagram d).states.names ≠ [] ∧
          (Machine.ofDiagram d).initial ∈ (Machine.ofDiagram d).states.names) ↔
      AllIn isAsciiBlank gap ∧ AllIn isAsciiBlank spaces := by
  constructor
  · intro h
    obtain ⟨hne, -⟩ := h (marker gap spaces) (not_occurs_keyword_marker hgap hspaces)
      (looksLikeStateDiagram_marker hgap) (marksStart_marker hfeed)
    obtain ⟨name, hname⟩ := List.exists_mem_of_ne_nil _ hne
    obtain ⟨line, hline, st, hread, -⟩ := Machine.mem_names_ofDiagram_iff.mp hname
    rw [lines_marker hfeed, List.mem_singleton] at hline
    obtain ⟨-, -, hsays⟩ := Statement.ofLine?_eq_some_iff.mp hread
    rw [hline, trim_marker] at hsays
    exact allIn_isAsciiBlank_of_says hgap hspaces hsays
  · rintro ⟨hgap', hspaces'⟩ d - - hmarks
    have hinitial := hmarks.initial_mem hgap' hspaces'
    exact ⟨List.ne_nil_of_mem hinitial, hinitial⟩

/-- A tab and a space are in ASCII. -/
theorem starts_in_state_tab :
    let d := "note\nx [*]\t--> A".toList
    AllIn isBlank ['\t'] ∧ AllIn isBlank [' '] ∧ '\n' ∉ ['\t'] ++ [' '] ∧
      MarksStart ['\t'] [' '] d ∧
      (Machine.ofDiagram d).initial ∈ (Machine.ofDiagram d).states.names := by
  intro d
  have hgap : AllIn isBlank ['\t'] := by decide
  have hspaces : AllIn isBlank [' '] := by decide
  have hfeed : '\n' ∉ ['\t'] ++ [' '] := by decide
  have hmarks : MarksStart ['\t'] [' '] d :=
    ⟨"x [*]\t--> A".toList, by decide, by decide, ['x', ' '], ['A'], [], rfl, by decide⟩
  have hall := (starts_in_state_iff hgap hspaces hfeed).mpr ⟨by decide, by decide⟩
  obtain ⟨-, hinitial⟩ := hall d (by decide +kernel) (by decide +kernel) hmarks
  exact ⟨hgap, hspaces, hfeed, hmarks, hinitial⟩

/-- A no-break space in the marker passes for a blank where documents are told apart, and not where
lines are read: the machine has no states, and is said to start in one. -/
theorem no_state_of_no_break_space :
    let d := "[*]\u00a0--> A".toList
    occurs keyword d = false ∧ looksLikeStateDiagram d = true ∧ MarksStart ['\u00a0'] [' '] d ∧
      Machine.ofDiagram d = { states := ∅, initial := Machine.idle } := by
  intro d
  have hmarks : MarksStart ['\u00a0'] [' '] d :=
    ⟨d, by decide, by decide, [], ['A'], [], rfl, by decide⟩
  exact ⟨by decide, by decide, hmarks, by decide +kernel⟩

end Document

end Statechart
