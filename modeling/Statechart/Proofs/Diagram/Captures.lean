import Statechart.Proofs.Diagram.Arrows
import Statechart.Proofs.Diagram.Meaning
import Statechart.Proofs.Text.MaximalRun
import Statechart.Proofs.Text.WideWord

/-!
# Where names are taken from

A name in a diagram stands in some place of the text: between what comes before it and what comes
after it.  `TakenFrom d c` says that a name is taken from the place `c` of the diagram `d`: a line
of the diagram fits a rule, and in the leftmost place in which it does, `c` is a place of a name.

On one side of a name there is always an arrow or a blank: behind the name, if it is in front of an
arrow, and before it otherwise.  On the other side, the open one, the name goes on as far as there
are ASCII word characters.  A letter of another script ends it there, although it continues the
word.  So names are whole in ASCII (`Capture.CutFrom.isMaximalRun`), and they are whole words of the
text just if no word character of any script stands on their open side
(`Capture.CutFrom.isMaximalRun_wide_iff`).
-/

namespace Statechart

open Text

/-! ## Places of names -/

/-- The two sides of a name. -/
inductive Side where
  | left
  | right
  deriving DecidableEq

/-- A place of a name in a text. -/
structure Capture where
  /-- The side on which the name ends where ASCII word characters do. -/
  openSide : Side
  /-- The text before the name. -/
  before : Text
  /-- The name. -/
  name : Text
  /-- The text after the name. -/
  after : Text
  deriving DecidableEq

namespace Capture

variable {p : Char → Bool} {c : Capture} {s a b : Text}

/-- The text in which the place is. -/
def text (c : Capture) : Text := c.before ++ (c.name ++ c.after)

/-- No character of the class is next to the name on its open side. -/
def OpenOutside (p : Char → Bool) (c : Capture) : Prop :=
  match c.openSide with
  | .left => EndsOutside p c.before
  | .right => StartsOutside p c.after

/-- No character of the class is next to the name on the other side. -/
def ShutOutside (p : Char → Bool) (c : Capture) : Prop :=
  match c.openSide with
  | .left => StartsOutside p c.after
  | .right => EndsOutside p c.before

/-- The same place with more text around. -/
def widen (a b : Text) (c : Capture) : Capture :=
  { c with before := a ++ c.before, after := c.after ++ b }

/-- The name is a word, whole in ASCII on its open side and in any script on the other. -/
structure CutFrom (s : Text) (c : Capture) : Prop where
  /-- The place is in the text. -/
  text_eq : c.text = s
  /-- The name is a word. -/
  isWord : IsWord c.name
  /-- On the open side there is no ASCII word character. -/
  opens : c.OpenOutside isWordChar
  /-- On the other side there is no word character of any script. -/
  shuts : c.ShutOutside isWideWordChar

lemma isMaximalRun_iff (hname : AllIn p c.name) :
    IsMaximalRun p c.before c.name c.after ↔ c.OpenOutside p ∧ c.ShutOutside p := by
  have hsplit : IsMaximalRun p c.before c.name c.after ↔
      EndsOutside p c.before ∧ StartsOutside p c.after :=
    ⟨fun h => ⟨h.starts, h.ends⟩, fun h => ⟨hname, h.1, h.2⟩⟩
  rw [hsplit, OpenOutside, ShutOutside]
  cases c.openSide with
  | left => exact Iff.rfl
  | right => exact and_comm

lemma CutFrom.isMaximalRun (h : c.CutFrom s) :
    IsMaximalRun isWordChar c.before c.name c.after := by
  have hshut : c.ShutOutside isWordChar := by
    have hwide := h.shuts
    unfold ShutOutside at hwide ⊢
    cases hside : c.openSide with
    | left =>
      rw [hside] at hwide
      exact StartsOutside.mono hwide fun _ => isWordChar_eq_false_of_isWideWordChar
    | right =>
      rw [hside] at hwide
      exact EndsOutside.mono hwide fun _ => isWordChar_eq_false_of_isWideWordChar
  exact (isMaximalRun_iff h.isWord.2).mpr ⟨h.opens, hshut⟩

/-- A name is a whole word of the text just if no word goes on behind its open side. -/
lemma CutFrom.isMaximalRun_wide_iff (h : c.CutFrom s) :
    IsMaximalRun isWideWordChar c.before c.name c.after ↔ c.OpenOutside isWideWordChar := by
  have hname : AllIn isWideWordChar c.name :=
    fun x hx => isWideWordChar_of_isWordChar (h.isWord.2 x hx)
  rw [isMaximalRun_iff hname]
  exact and_iff_left h.shuts

/-- A text that is no part of a word may be added at either end. -/
lemma CutFrom.widen (h : c.CutFrom s) (ha : EndsOutside isWideWordChar a)
    (hb : StartsOutside isWideWordChar b) : (c.widen a b).CutFrom (a ++ (s ++ b)) := by
  have hnarrow : ∀ x, isWideWordChar x = false → isWordChar x = false :=
    fun _ => isWordChar_eq_false_of_isWideWordChar
  obtain ⟨htext, hword, hopens, hshuts⟩ := h
  refine ⟨?_, hword, ?_, ?_⟩
  · rw [← htext]
    simp [text, Capture.widen]
  · unfold OpenOutside at hopens ⊢
    cases hside : c.openSide with
    | left =>
      rw [hside] at hopens
      simpa [Capture.widen, hside] using (ha.mono hnarrow).append hopens
    | right =>
      rw [hside] at hopens
      simpa [Capture.widen, hside] using StartsOutside.append hopens (hb.mono hnarrow)
  · unfold ShutOutside at hshuts ⊢
    cases hside : c.openSide with
    | left =>
      rw [hside] at hshuts
      simpa [Capture.widen, hside] using StartsOutside.append hshuts hb
    | right =>
      rw [hside] at hshuts
      simpa [Capture.widen, hside] using ha.append hshuts

end Capture

/-! ## Names in a line -/

namespace Statement

variable {s before rest : Text} {c : Capture}

/-- Here starts an initial marker with this name. -/
def InitialCapture (before rest : Text) (c : Capture) : Prop :=
  ∃ link name tail, rest = outside ++ link ++ name ++ tail ∧
    IsLink link ∧ IsWord name ∧ StartsOutside isWordChar tail ∧
    c = ⟨.right, before ++ outside ++ link, name, tail⟩

/-- Here starts a transition with this source or target. -/
def TransitionCapture (before rest : Text) (c : Capture) : Prop :=
  EndsOutside isWordChar before ∧
    ∃ source link target tail, rest = source ++ link ++ target ++ tail ∧
      IsWord source ∧ IsLink link ∧ IsWord target ∧ StartsOutside isWordChar tail ∧
      (c = ⟨.left, before, source, link ++ target ++ tail⟩ ∨
        c = ⟨.right, before ++ source ++ link, target, tail⟩)

/-- Here starts a final marker with this name. -/
def FinalCapture (before rest : Text) (c : Capture) : Prop :=
  EndsOutside isWordChar before ∧
    ∃ name link tail, rest = name ++ link ++ outside ++ tail ∧
      IsWord name ∧ IsLink link ∧ c = ⟨.left, before, name, link ++ outside ++ tail⟩

/-- Here starts a declaration of this name. -/
def DeclarationCapture (before rest : Text) (c : Capture) : Prop :=
  ∃ gap lead name tail, rest = declares ++ gap ++ lead ++ name ++ tail ∧
    gap ≠ [] ∧ AllIn isAsciiBlank gap ∧ (lead = [] ∨ IsAlias lead) ∧
    IsWord name ∧ StartsOutside isWordChar tail ∧
    c = ⟨.right, before ++ declares ++ gap ++ lead, name, tail⟩

/-- A name is taken from this place of a trimmed line: it belongs to the leftmost place of the first
rule that has a place in the line. -/
inductive Taken (s : Text) (c : Capture) : Prop
  /-- The first rule fits. -/
  | initial (h : AtLeftmost InitialCapture s c)
  /-- The second rule fits, and the first does not. -/
  | transition (h₁ : ¬ Contains InitialPlace s) (h : AtLeftmost TransitionCapture s c)
  /-- The third rule fits, and the first two do not. -/
  | final (h₁ : ¬ Contains InitialPlace s) (h₂ : ¬ Contains TransitionPlace s)
      (h : AtLeftmost FinalCapture s c)
  /-- Only the fourth rule fits. -/
  | declaration (h₁ : ¬ Contains InitialPlace s) (h₂ : ¬ Contains TransitionPlace s)
      (h₃ : ¬ Contains FinalPlace s) (h : AtLeftmost DeclarationCapture s c)

/-! ### Both sides of a name -/

lemma isWideWordChar_eq_false_of_isAsciiBlank {x : Char} (h : isAsciiBlank x = true) :
    isWideWordChar x = false :=
  isWideWordChar_eq_false_of_isBlank (isBlank_of_isAsciiBlank h)

/-- No word of any script goes on where an arrow with its blanks begins or ends. -/
lemma IsLink.outside_isWideWordChar {link : Text} (h : IsLink link) :
    StartsOutside isWideWordChar link ∧ EndsOutside isWideWordChar link := by
  obtain ⟨left, right, rfl, hleft, hright⟩ := h
  have harrow : StartsOutside isWideWordChar arrow ∧ EndsOutside isWideWordChar arrow := by
    decide +kernel
  have hleft' := startsOutside_of_allIn hleft fun _ => isWideWordChar_eq_false_of_isAsciiBlank
  have hright' := endsOutside_of_allIn hright fun _ => isWideWordChar_eq_false_of_isAsciiBlank
  constructor
  · rw [List.append_assoc]
    refine hleft'.append ?_
    exact (startsOutside_append_of_ne_nil (by decide)).mpr harrow.1
  · exact ((endsOutside_append_of_ne_nil (by decide)).mpr harrow.2).append hright'

lemma InitialCapture.cutFrom (h : InitialCapture before rest c) : c.CutFrom (before ++ rest) := by
  obtain ⟨link, name, tail, rfl, hlink, hname, htail, rfl⟩ := h
  have hshuts : EndsOutside isWideWordChar (before ++ outside ++ link) := by
    rw [endsOutside_append_of_ne_nil (List.ne_nil_of_mem hlink.mem)]
    exact hlink.outside_isWideWordChar.2
  exact ⟨by simp [Capture.text], hname, htail, hshuts⟩

lemma TransitionCapture.cutFrom (h : TransitionCapture before rest c) :
    c.CutFrom (before ++ rest) := by
  obtain ⟨hbefore, source, link, target, tail, rfl, hsource, hlink, htarget, htail, hc⟩ := h
  have hne : link ≠ [] := List.ne_nil_of_mem hlink.mem
  rcases hc with rfl | rfl
  · have hshuts : StartsOutside isWideWordChar (link ++ target ++ tail) := by
      rw [List.append_assoc, startsOutside_append_of_ne_nil hne]
      exact hlink.outside_isWideWordChar.1
    exact ⟨by simp [Capture.text], hsource, hbefore, hshuts⟩
  · have hshuts : EndsOutside isWideWordChar (before ++ source ++ link) := by
      rw [endsOutside_append_of_ne_nil hne]
      exact hlink.outside_isWideWordChar.2
    exact ⟨by simp [Capture.text], htarget, htail, hshuts⟩

lemma FinalCapture.cutFrom (h : FinalCapture before rest c) : c.CutFrom (before ++ rest) := by
  obtain ⟨hbefore, name, link, tail, rfl, hname, hlink, rfl⟩ := h
  have hshuts : StartsOutside isWideWordChar (link ++ outside ++ tail) := by
    rw [List.append_assoc, startsOutside_append_of_ne_nil (List.ne_nil_of_mem hlink.mem)]
    exact hlink.outside_isWideWordChar.1
  exact ⟨by simp [Capture.text], hname, hbefore, hshuts⟩

lemma DeclarationCapture.cutFrom (h : DeclarationCapture before rest c) :
    c.CutFrom (before ++ rest) := by
  obtain ⟨gap, lead, name, tail, rfl, hne, hgap, hlead, hname, htail, rfl⟩ := h
  -- Blanks come right before the name, those behind `state` or those behind `as`.
  have hblanks : ∀ {blanks : Text}, blanks ≠ [] → AllIn isAsciiBlank blanks → ∀ front : Text,
      EndsOutside isWideWordChar (front ++ blanks) := by
    intro blanks hne hblanks front
    rw [endsOutside_append_of_ne_nil hne]
    exact endsOutside_of_allIn hblanks fun _ => isWideWordChar_eq_false_of_isAsciiBlank
  have hshuts : EndsOutside isWideWordChar (before ++ declares ++ gap ++ lead) := by
    rcases hlead with rfl | ⟨label, gap₁, gap₂, rfl, -, -, -, -, hne₂, hgap₂⟩
    · rw [List.append_nil]
      exact hblanks hne hgap _
    · rw [← List.append_assoc]
      exact hblanks hne₂ hgap₂ _
  exact ⟨by simp [Capture.text], hname, htail, hshuts⟩

/-- On the other side than the open one, no name is cut out of a word of any script. -/
lemma Taken.cutFrom (h : Taken s c) : c.CutFrom s := by
  cases h with
  | initial h =>
    obtain ⟨before, rest, rfl, h, -⟩ := h
    exact h.cutFrom
  | transition _ h =>
    obtain ⟨before, rest, rfl, h, -⟩ := h
    exact h.cutFrom
  | final _ _ h =>
    obtain ⟨before, rest, rfl, h, -⟩ := h
    exact h.cutFrom
  | declaration _ _ _ h =>
    obtain ⟨before, rest, rfl, h, -⟩ := h
    exact h.cutFrom

/-! ### The names that are taken -/

lemma mentioned_ne_nil (st : Statement) : st.mentioned ≠ [] := by
  cases st <;> exact List.cons_ne_nil _ _

/-- If the places of a rule and of its names are the same, then so are the leftmost of them. -/
lemma exists_atLeftmost_iff {P : Text → Text → Statement → Prop} {Q : Text → Text → Capture → Prop}
    (h : ∀ before rest name, (∃ st, P before rest st ∧ name ∈ st.mentioned) ↔
      ∃ c, Q before rest c ∧ c.name = name) {name : Text} :
    (∃ st, AtLeftmost P s st ∧ name ∈ st.mentioned) ↔ ∃ c, AtLeftmost Q s c ∧ c.name = name := by
  constructor
  · rintro ⟨st, ⟨before, rest, hs, hP, hfirst⟩, hname⟩
    obtain ⟨c, hQ, hc⟩ := (h before rest name).mp ⟨st, hP, hname⟩
    refine ⟨c, ⟨before, rest, hs, hQ, ?_⟩, hc⟩
    intro before' rest' c' hs' hlt hQ'
    obtain ⟨st', hP', -⟩ := (h before' rest' c'.name).mpr ⟨c', hQ', rfl⟩
    exact hfirst before' rest' st' hs' hlt hP'
  · rintro ⟨c, ⟨before, rest, hs, hQ, hfirst⟩, hc⟩
    obtain ⟨st, hP, hname⟩ := (h before rest name).mpr ⟨c, hQ, hc⟩
    refine ⟨st, ⟨before, rest, hs, hP, ?_⟩, hname⟩
    intro before' rest' st' hs' hlt hP'
    obtain ⟨name', hname'⟩ := List.exists_mem_of_ne_nil _ st'.mentioned_ne_nil
    obtain ⟨c', hQ', -⟩ := (h before' rest' name').mp ⟨st', hP', hname'⟩
    exact hfirst before' rest' c' hs' hlt hQ'

lemma exists_initialCapture_iff (before rest name : Text) :
    (∃ st, InitialPlace before rest st ∧ name ∈ st.mentioned) ↔
      ∃ c, InitialCapture before rest c ∧ c.name = name := by
  constructor
  · rintro ⟨_, ⟨link, name', tail, hrest, hlink, hword, htail, rfl⟩, hname⟩
    obtain rfl := List.mem_singleton.mp hname
    exact ⟨_, ⟨link, name, tail, hrest, hlink, hword, htail, rfl⟩, rfl⟩
  · rintro ⟨_, ⟨link, name', tail, hrest, hlink, hword, htail, rfl⟩, rfl⟩
    exact ⟨_, ⟨link, name', tail, hrest, hlink, hword, htail, rfl⟩, List.mem_singleton_self _⟩

lemma exists_transitionCapture_iff (before rest name : Text) :
    (∃ st, TransitionPlace before rest st ∧ name ∈ st.mentioned) ↔
      ∃ c, TransitionCapture before rest c ∧ c.name = name := by
  constructor
  · rintro ⟨_, ⟨hbefore, source, link, target, tail, event, hrest, hsource, hlink, htarget, htail,
      -, rfl⟩, hname⟩
    rcases List.mem_pair.mp hname with rfl | rfl
    · exact ⟨_, ⟨hbefore, name, link, target, tail, hrest, hsource, hlink, htarget, htail,
        .inl rfl⟩, rfl⟩
    · exact ⟨_, ⟨hbefore, source, link, name, tail, hrest, hsource, hlink, htarget, htail,
        .inr rfl⟩, rfl⟩
  · rintro ⟨c, ⟨hbefore, source, link, target, tail, hrest, hsource, hlink, htarget, htail, hc⟩,
      rfl⟩
    refine ⟨.transition source target _, ⟨hbefore, source, link, target, tail, _, hrest, hsource,
      hlink, htarget, htail, eventOf_iff.mpr rfl, rfl⟩, ?_⟩
    rcases hc with rfl | rfl
    · exact List.mem_cons_self
    · exact List.mem_cons_of_mem _ (List.mem_singleton_self _)

lemma exists_finalCapture_iff (before rest name : Text) :
    (∃ st, FinalPlace before rest st ∧ name ∈ st.mentioned) ↔
      ∃ c, FinalCapture before rest c ∧ c.name = name := by
  constructor
  · rintro ⟨_, ⟨hbefore, name', link, tail, hrest, hword, hlink, rfl⟩, hname⟩
    obtain rfl := List.mem_singleton.mp hname
    exact ⟨_, ⟨hbefore, name, link, tail, hrest, hword, hlink, rfl⟩, rfl⟩
  · rintro ⟨_, ⟨hbefore, name', link, tail, hrest, hword, hlink, rfl⟩, rfl⟩
    exact ⟨_, ⟨hbefore, name', link, tail, hrest, hword, hlink, rfl⟩, List.mem_singleton_self _⟩

lemma exists_declarationCapture_iff (before rest name : Text) :
    (∃ st, DeclarationPlace before rest st ∧ name ∈ st.mentioned) ↔
      ∃ c, DeclarationCapture before rest c ∧ c.name = name := by
  constructor
  · rintro ⟨_, ⟨gap, lead, name', tail, hrest, hne, hgap, hlead, hword, htail, rfl⟩, hname⟩
    obtain rfl := List.mem_singleton.mp hname
    exact ⟨_, ⟨gap, lead, name, tail, hrest, hne, hgap, hlead, hword, htail, rfl⟩, rfl⟩
  · rintro ⟨_, ⟨gap, lead, name', tail, hrest, hne, hgap, hlead, hword, htail, rfl⟩, rfl⟩
    exact ⟨_, ⟨gap, lead, name', tail, hrest, hne, hgap, hlead, hword, htail, rfl⟩,
      List.mem_singleton_self _⟩

/-- The names that are taken from a line are those that the line mentions. -/
lemma exists_taken_iff {name : Text} :
    (∃ c, Taken s c ∧ c.name = name) ↔ ∃ st, Says s st ∧ name ∈ st.mentioned := by
  constructor
  · rintro ⟨c, h, hname⟩
    cases h with
    | initial h =>
      obtain ⟨st, hst, hmem⟩ := (exists_atLeftmost_iff exists_initialCapture_iff).mpr ⟨c, h, hname⟩
      exact ⟨st, .initial hst, hmem⟩
    | transition h₁ h =>
      obtain ⟨st, hst, hmem⟩ :=
        (exists_atLeftmost_iff exists_transitionCapture_iff).mpr ⟨c, h, hname⟩
      exact ⟨st, .transition h₁ hst, hmem⟩
    | final h₁ h₂ h =>
      obtain ⟨st, hst, hmem⟩ := (exists_atLeftmost_iff exists_finalCapture_iff).mpr ⟨c, h, hname⟩
      exact ⟨st, .final h₁ h₂ hst, hmem⟩
    | declaration h₁ h₂ h₃ h =>
      obtain ⟨st, hst, hmem⟩ :=
        (exists_atLeftmost_iff exists_declarationCapture_iff).mpr ⟨c, h, hname⟩
      exact ⟨st, .declaration h₁ h₂ h₃ hst, hmem⟩
  · rintro ⟨st, h, hname⟩
    cases h with
    | initial h =>
      obtain ⟨c, hc, hmem⟩ := (exists_atLeftmost_iff exists_initialCapture_iff).mp ⟨st, h, hname⟩
      exact ⟨c, .initial hc, hmem⟩
    | transition h₁ h =>
      obtain ⟨c, hc, hmem⟩ :=
        (exists_atLeftmost_iff exists_transitionCapture_iff).mp ⟨st, h, hname⟩
      exact ⟨c, .transition h₁ hc, hmem⟩
    | final h₁ h₂ h =>
      obtain ⟨c, hc, hmem⟩ := (exists_atLeftmost_iff exists_finalCapture_iff).mp ⟨st, h, hname⟩
      exact ⟨c, .final h₁ h₂ hc, hmem⟩
    | declaration h₁ h₂ h₃ h =>
      obtain ⟨c, hc, hmem⟩ :=
        (exists_atLeftmost_iff exists_declarationCapture_iff).mp ⟨st, h, hname⟩
      exact ⟨c, .declaration h₁ h₂ h₃ hc, hmem⟩

end Statement

/-! ## Names in a diagram -/

/-- A name is taken from this place of a diagram, in a line that is neither blank nor a comment. -/
inductive TakenFrom (d : Text) : Capture → Prop
  /-- `line` stands between `x` and `y`, and the blanks `a` and `b` at its ends are no part of what
  is read. -/
  | intro {x line y a b : Text} {c : Capture} (hd : d = x ++ (line ++ y))
      (hline : IsMaximalRun isInLine x line y) (htrim : line = a ++ (trim line ++ b))
      (ha : AllIn isBlank a) (hb : AllIn isBlank b) (hne : trim line ≠ [])
      (hcomment : (trim line).head? ≠ some '%') (h : Statement.Taken (trim line) c) :
      TakenFrom d (c.widen (x ++ a) (b ++ y))

variable {d name : Text} {c : Capture}

lemma TakenFrom.cutFrom (h : TakenFrom d c) : c.CutFrom d := by
  cases h with
  | @intro x line y a b c hd hline htrim ha hb hne hcomment h =>
    have hfeed : ∀ x, isInLine x = false → isWideWordChar x = false := by
      intro x hx
      obtain rfl : x = '\n' := by simpa [isInLine] using hx
      decide +kernel
    have hblank : ∀ x, isBlank x = true → isWideWordChar x = false :=
      fun _ => isWideWordChar_eq_false_of_isBlank
    have hstart : EndsOutside isWideWordChar (x ++ a) :=
      (hline.starts.mono hfeed).append (endsOutside_of_allIn ha hblank)
    have hend : StartsOutside isWideWordChar (b ++ y) :=
      (startsOutside_of_allIn hb hblank).append (hline.ends.mono hfeed)
    have hcut := h.cutFrom.widen hstart hend
    have htext : x ++ a ++ (trim line ++ (b ++ y)) = d := by
      rw [hd]
      conv_rhs => rw [htrim]
      simp only [List.append_assoc]
    rwa [htext] at hcut

/-- The states of a diagram are the names that are taken from it. -/
lemma Machine.mem_names_ofDiagram_iff_taken :
    name ∈ (ofDiagram d).states.names ↔ ∃ c, TakenFrom d c ∧ c.name = name := by
  rw [mem_names_ofDiagram_iff]
  constructor
  · rintro ⟨line, hline, st, hread, hname⟩
    obtain ⟨x, y, hd, hrun⟩ := mem_lines_iff.mp hline
    obtain ⟨hne, hcomment, hsays⟩ := Statement.ofLine?_eq_some_iff.mp hread
    obtain ⟨c, htaken, hc⟩ := Statement.exists_taken_iff.mpr ⟨st, hsays, hname⟩
    obtain ⟨a, b, htrim, ha, hb, -⟩ := exists_append_trim_append line
    rw [List.append_assoc] at htrim
    exact ⟨_, .intro hd hrun htrim ha hb hne hcomment htaken, hc⟩
  · rintro ⟨_, h, hname⟩
    cases h with
    | @intro x line y a b c hd hline htrim ha hb hne hcomment h =>
      obtain ⟨st, hsays, hmem⟩ := Statement.exists_taken_iff.mp ⟨c, h, hname⟩
      exact ⟨line, mem_lines_iff.mpr ⟨x, y, hd, hline⟩, st,
        Statement.ofLine?_eq_some_iff.mpr ⟨hne, hcomment, hsays⟩, hmem⟩

end Statechart
