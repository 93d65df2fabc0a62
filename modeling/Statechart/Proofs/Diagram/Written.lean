import Statechart.Proofs.Diagram.Closure

/-!
# Statements written as lines

`Statement.written` writes a statement as a line of a diagram, and `says_written` reads it back.
The rules look anywhere in a line, so a written statement has to be kept from the rules that come
before its own.  The names cannot attract them, because no rule begins or ends with a word character
alone; only the event of a transition can, if it holds an initial marker itself
(`Statement.IsWritable.no_marker`).
-/

namespace Statechart.Statement

open Text

/-- An arrow with a space on both sides. -/
def spacedArrow : Text := ' ' :: (arrow ++ [' '])

/-- A statement as a line of a diagram. -/
def written : Statement → Text
  | .initial name => outside ++ (spacedArrow ++ name)
  | .transition source target event =>
    source ++ (spacedArrow ++ (target ++ (' ' :: ':' :: ' ' :: event)))
  | .final name => name ++ (spacedArrow ++ outside)
  | .declaration name => declares ++ (' ' :: name)

/-- A statement that a line can make, where no event looks like an initial marker. -/
structure IsWritable (st : Statement) : Prop extends st.WellFormed where
  no_marker : ∀ source target event, st = .transition source target event →
    ¬ Contains InitialPlace event

variable {s link name source target event line : Text} {st : Statement}

/-- A transition can be written if its event holds no initial marker. -/
lemma isWritable_transition (hsource : IsWord source) (htarget : IsWord target)
    (hevent : IsEvent event) (hmarker : ¬ Contains InitialPlace event) :
    (transition source target event).IsWritable := by
  refine ⟨⟨by simp [mentioned, hsource, htarget], ?_⟩, ?_⟩
  · rintro _ _ _ ⟨rfl, rfl, rfl⟩
    exact hevent
  · rintro _ _ _ ⟨rfl, rfl, rfl⟩
    exact hmarker

lemma isLink_spacedArrow : IsLink spacedArrow :=
  ⟨[' '], [' '], rfl, allIn_singleton.mpr (by decide), allIn_singleton.mpr (by decide)⟩

lemma not_mem_of_allIn_isWordChar {c : Char} (hs : AllIn isWordChar s)
    (hc : isWordChar c = false) : c ∉ s := hs.not_mem hc

/-! ### Rules that a line cannot attract -/

/-- A name behind a link: what the first two rules have in common. -/
def HoldsTarget (s : Text) : Prop :=
  ∃ before link name tail, s = before ++ (link ++ (name ++ tail)) ∧ IsLink link ∧ IsWord name

lemma holdsTarget_of_initialPlace (h : Contains InitialPlace s) : HoldsTarget s := by
  obtain ⟨before, -, -, rfl, link, name, tail, rfl, hlink, hname, -⟩ := h
  exact ⟨before ++ outside, link, name, tail, by simp only [List.append_assoc], hlink, hname⟩

lemma holdsTarget_of_transitionPlace (h : Contains TransitionPlace s) : HoldsTarget s := by
  obtain ⟨before, -, -, rfl, -, source, link, target, tail, -, rfl, -, hlink, htarget, -⟩ := h
  exact ⟨before ++ source, link, target, tail, by simp only [List.append_assoc], hlink, htarget⟩

/-- A link is cut by the head of its arrow. -/
lemma IsLink.exists_head (h : IsLink link) :
    ∃ left right, link = left ++ '>' :: right ∧ AllIn isAsciiBlank right := by
  obtain ⟨left, right, rfl, -, hright⟩ := h
  exact ⟨left ++ ['-', '-'], right, by simp [arrow], hright⟩

lemma IsLink.mem (h : IsLink link) : '>' ∈ link := by
  obtain ⟨left, right, rfl, -⟩ := h.exists_head
  simp

/-- Without the head of an arrow, none of the first three rules fits. -/
lemma not_contains_of_not_mem (h : '>' ∉ s) : ¬ Contains InitialPlace s ∧
    ¬ Contains TransitionPlace s ∧ ¬ Contains FinalPlace s := by
  have hno : ¬ HoldsTarget s := by
    rintro ⟨before, link, name, tail, rfl, hlink, -⟩
    exact h (by simp [hlink.mem])
  refine ⟨fun hc => hno (holdsTarget_of_initialPlace hc),
    fun hc => hno (holdsTarget_of_transitionPlace hc), ?_⟩
  rintro ⟨before, -, -, rfl, -, name, link, tail, rfl, -, hlink, -⟩
  exact h (by simp [hlink.mem])

/-- In front of the outside, an arrow has no target. -/
lemma not_holdsTarget_final (hname : IsWord name) :
    ¬ HoldsTarget (name ++ (spacedArrow ++ outside)) := by
  rintro ⟨before, link, target, tail, hs, hlink, htarget⟩
  obtain ⟨left, right, rfl, hright⟩ := hlink.exists_head
  -- The line has one arrow, so the target would have to stand in the outside.
  have hcut : (name ++ [' ', '-', '-']) ++ '>' :: (' ' :: outside) =
      (before ++ left) ++ '>' :: (right ++ (target ++ tail)) := by
    simpa [spacedArrow, arrow] using hs
  have hfront : '>' ∉ name ++ [' ', '-', '-'] := by
    simp [not_mem_of_allIn_isWordChar hname.2 (c := '>') (by decide)]
  obtain ⟨-, -, hbehind⟩ := (List.append_cons_inj_of_notMem hfront (by decide)).mp hcut
  have hspace : AllIn isAsciiBlank [' '] := allIn_singleton.mpr (by decide)
  obtain ⟨-, hrest⟩ := append_inj_of_startsOutside hspace
    (startsOutside_cons.mpr (by decide) : StartsOutside isAsciiBlank outside) hright
    (startsOutside_isAsciiBlank_of_isWord htarget tail) hbehind
  obtain ⟨c, target, rfl⟩ := List.exists_cons_of_ne_nil htarget.1
  obtain ⟨rfl, -⟩ := List.cons.inj hrest
  exact absurd (allIn_cons.mp htarget.2).1 (by decide)

/-- An initial marker begins with a bracket, so in a transition it stands in the event. -/
lemma not_contains_initialPlace_transition (hsource : IsWord source) (htarget : IsWord target)
    (hevent : ¬ Contains InitialPlace event) :
    ¬ Contains InitialPlace (written (.transition source target event)) := by
  rintro ⟨before, rest, st, hs, hplace⟩
  have hbracket : '[' ∉ source ++ (spacedArrow ++ (target ++ [' ', ':', ' '])) := by
    simp [spacedArrow, arrow, not_mem_of_allIn_isWordChar hsource.2 (c := '[') (by decide),
      not_mem_of_allIn_isWordChar htarget.2 (c := '[') (by decide)]
  have hcut : (source ++ (spacedArrow ++ (target ++ [' ', ':', ' ']))) ++ event =
      before ++ rest := by
    simpa [written] using hs
  rcases List.append_eq_append_iff.mp hcut with ⟨a, -, hin⟩ | ⟨a, hfront, hrest⟩
  · exact hevent ⟨a, rest, st, hin, hplace⟩
  · obtain ⟨link, name, tail, hout, h⟩ := hplace
    cases a with
    | nil => exact hevent ⟨[], event, st, rfl, link, name, tail, by rw [← hout, hrest]; rfl, h⟩
    | cons c a =>
      rw [hout] at hrest
      obtain ⟨rfl, -⟩ := List.cons.inj hrest
      exact hbracket (by simp [hfront])

/-! ### Reading a written line -/

lemma says_initial (hname : IsWord name) : Says (written (.initial name)) (.initial name) :=
  .initial (atLeftmost_of_start
    ⟨spacedArrow, name, [], by simp [written], isLink_spacedArrow, hname, startsOutside_nil, rfl⟩)

lemma eventOf_written (hevent : IsEvent event) :
    EventOf target (' ' :: ':' :: ' ' :: event) event := by
  have hspace : AllIn isBlank [' '] := allIn_singleton.mpr (by decide)
  have htrim : trim (' ' :: event) = event := by
    simpa using trim_append_append hspace hevent.trimmed allIn_nil
  have hblanks : AllIn isAsciiBlank [' '] := allIn_singleton.mpr (by decide)
  have hne : trim (' ' :: event) ≠ [] := by
    rw [htrim]
    exact hevent.ne_nil
  have h : EventOf target (' ' :: ':' :: ' ' :: event) (trim (' ' :: event)) :=
    .labelled rfl hblanks hne
  rwa [htrim] at h

lemma says_transition (hsource : IsWord source) (htarget : IsWord target) (hevent : IsEvent event)
    (hmarker : ¬ Contains InitialPlace event) :
    Says (written (.transition source target event)) (.transition source target event) := by
  refine .transition (not_contains_initialPlace_transition hsource htarget hmarker)
    (atLeftmost_of_start ⟨endsOutside_nil, source, spacedArrow, target, ' ' :: ':' :: ' ' :: event,
      event, by simp [written], hsource, isLink_spacedArrow, htarget, ?_, eventOf_written hevent,
      rfl⟩)
  exact startsOutside_cons.mpr (by decide)

lemma says_final (hname : IsWord name) : Says (written (.final name)) (.final name) := by
  have hno := not_holdsTarget_final hname
  exact .final (fun h => hno (holdsTarget_of_initialPlace h))
    (fun h => hno (holdsTarget_of_transitionPlace h))
    (atLeftmost_of_start ⟨endsOutside_nil, name, spacedArrow, [], by simp [written], hname,
      isLink_spacedArrow, rfl⟩)

lemma says_declaration (hname : IsWord name) :
    Says (written (.declaration name)) (.declaration name) := by
  have hhead : '>' ∉ written (.declaration name) := by
    simp [written, declares, not_mem_of_allIn_isWordChar hname.2 (c := '>') (by decide)]
  obtain ⟨hinitial, htransition, hfinal⟩ := not_contains_of_not_mem hhead
  have hspace : AllIn isAsciiBlank [' '] := allIn_singleton.mpr (by decide)
  exact .declaration hinitial htransition hfinal (atLeftmost_of_start
    ⟨[' '], [], name, [], by simp [written], List.cons_ne_nil _ _, hspace, .inl rfl, hname,
      startsOutside_nil, rfl⟩)

/-- A written statement is read by its own rule. -/
lemma says_written (h : st.IsWritable) : Says st.written st := by
  cases st with
  | initial name => exact says_initial (h.isWord name (by simp [mentioned]))
  | transition source target event =>
    exact says_transition (h.isWord source (by simp [mentioned]))
      (h.isWord target (by simp [mentioned])) (h.isEvent source target event rfl)
      (h.no_marker source target event rfl)
  | final name => exact says_final (h.isWord name (by simp [mentioned]))
  | declaration name => exact says_declaration (h.isWord name (by simp [mentioned]))

/-! ### Lines with blanks around them -/

/-- A written statement starts with a word character or a bracket. -/
lemma exists_head_written (h : st.WellFormed) :
    ∃ c rest, st.written = c :: rest ∧ (isWordChar c = true ∨ c = '[') := by
  have hword : ∀ {w t : Text}, IsWord w → ∃ c rest, w ++ t = c :: rest ∧
      (isWordChar c = true ∨ c = '[') := by
    rintro w t ⟨hne, hall⟩
    obtain ⟨c, w, rfl⟩ := List.exists_cons_of_ne_nil hne
    exact ⟨c, w ++ t, rfl, .inl (allIn_cons.mp hall).1⟩
  cases st with
  | initial name => exact ⟨'[', _, rfl, .inr rfl⟩
  | transition source target event => exact hword (h.isWord source (by simp [mentioned]))
  | final name => exact hword (h.isWord name (by simp [mentioned]))
  | declaration name => exact ⟨'s', _, rfl, .inl (by decide)⟩

lemma endsOutside_of_isWord (h : IsWord name) (front : Text) :
    EndsOutside isBlank (front ++ name) :=
  (endsOutside_append_of_ne_nil h.1).mpr (trimmed_of_allIn_isWordChar h.2).2

lemma endsOutside_written (h : st.WellFormed) : EndsOutside isBlank st.written := by
  cases st with
  | initial name =>
    have hname := endsOutside_of_isWord (h.isWord name (by simp [mentioned]))
    simpa [written] using hname (outside ++ spacedArrow)
  | transition source target event =>
    obtain ⟨hne, htrimmed, -⟩ := h.isEvent source target event rfl
    have hevent : EndsOutside isBlank
        ((source ++ (spacedArrow ++ (target ++ [' ', ':', ' ']))) ++ event) :=
      (endsOutside_append_of_ne_nil hne).mpr htrimmed.2
    simpa [written] using hevent
  | final name =>
    have hend : EndsOutside isBlank outside := by decide
    have houtside : EndsOutside isBlank ((name ++ spacedArrow) ++ outside) :=
      (endsOutside_append_of_ne_nil (by decide)).mpr hend
    simpa [written] using houtside
  | declaration name =>
    have hname := endsOutside_of_isWord (h.isWord name (by simp [mentioned]))
    simpa [written] using hname (declares ++ [' '])

lemma trimmed_written (h : st.WellFormed) : Trimmed st.written := by
  refine ⟨?_, endsOutside_written h⟩
  obtain ⟨c, rest, hwritten, hc⟩ := exists_head_written h
  rw [hwritten, startsOutside_cons]
  rcases hc with hword | rfl
  · exact isBlank_eq_false_of_isWordChar hword
  · decide

/-- A written statement stands on one line. -/
lemma no_line_feed_written (h : st.WellFormed) : '\n' ∉ st.written := by
  have hword : ∀ name ∈ st.mentioned, '\n' ∉ name := fun name hname =>
    not_mem_of_allIn_isWordChar (h.isWord name hname).2 (by decide)
  cases st with
  | initial name => simpa [written, spacedArrow, arrow, outside, mentioned] using hword
  | transition source target event =>
    have hevent := (h.isEvent source target event rfl).no_line_feed
    simpa [written, spacedArrow, arrow, mentioned, hevent] using hword
  | final name => simpa [written, spacedArrow, arrow, outside, mentioned] using hword
  | declaration name => simpa [written, declares, mentioned] using hword

/-- A trimmed text that is no comment is read, between blanks, as what it says. -/
lemma ofLine?_of_says {indent behind : Text} {c : Char} {rest : Text} (hs : Trimmed s)
    (hcons : s = c :: rest) (hc : c ≠ '%') (h : Says s st) (hindent : AllIn isBlank indent)
    (hbehind : AllIn isBlank behind) : ofLine? (indent ++ (s ++ behind)) = some st := by
  rw [ofLine?_eq_some_iff]
  unfold LineSays
  rw [trim_append_append hindent hs hbehind]
  exact ⟨by simp [hcons], by simpa [hcons] using hc, h⟩

/-- A line that holds a written statement between blanks is read as this statement. -/
lemma ofLine?_written {indent behind : Text} (h : st.IsWritable) (hindent : AllIn isBlank indent)
    (hbehind : AllIn isBlank behind) : ofLine? (indent ++ (st.written ++ behind)) = some st := by
  obtain ⟨c, rest, hwritten, hc⟩ := exists_head_written h.toWellFormed
  refine ofLine?_of_says (trimmed_written h.toWellFormed) hwritten ?_ (says_written h) hindent
    hbehind
  rintro rfl
  exact absurd hc (by decide)

end Statechart.Statement
