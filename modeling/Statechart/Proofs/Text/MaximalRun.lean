import Mathlib.Data.List.Basic
import Statechart.Proofs.Text.Scan

/-!
# Maximal runs

A part of a text is a maximal run of a class if its characters belong to the class and the
characters next to it, if there are any, do not.  Words are maximal runs, and so are lines: the
lines of a text are its maximal runs of characters other than the line feed (`mem_lines_iff`), so
that a place of a line is a place of the text.
-/

namespace Statechart.Text

/-- The part between the two texts belongs to a class, and cannot be made longer on either side. -/
structure IsMaximalRun (p : Char → Bool) (before part after : Text) : Prop where
  /-- The part belongs to the class. -/
  allIn : AllIn p part
  /-- No character of the class comes right before it. -/
  starts : EndsOutside p before
  /-- No character of the class comes right after it. -/
  ends : StartsOutside p after

/-- The characters that a line is made of. -/
def isInLine (c : Char) : Bool := c != '\n'

variable {p q : Char → Bool} {s t line before after : Text}

/-! ## Ends of texts -/

lemma StartsOutside.mono (h : StartsOutside p s) (hpq : ∀ c, p c = false → q c = false) :
    StartsOutside q s := fun c hc => hpq c (h c hc)

lemma EndsOutside.mono (h : EndsOutside p s) (hpq : ∀ c, p c = false → q c = false) :
    EndsOutside q s := fun c hc => hpq c (h c hc)

/-- A text starts outside a class if its parts do. -/
lemma StartsOutside.append (hs : StartsOutside p s) (ht : StartsOutside p t) :
    StartsOutside p (s ++ t) := by
  cases s with
  | nil => exact ht
  | cons c s => exact (startsOutside_append_of_ne_nil (List.cons_ne_nil c s)).mpr hs

/-- A text ends outside a class if its parts do. -/
lemma EndsOutside.append (hs : EndsOutside p s) (ht : EndsOutside p t) :
    EndsOutside p (s ++ t) := by
  cases t with
  | nil => rwa [List.append_nil]
  | cons c t => exact (endsOutside_append_of_ne_nil (List.cons_ne_nil c t)).mpr ht

/-- A text of one class neither starts nor ends with a character of a class disjoint from it. -/
lemma startsOutside_of_allIn (h : AllIn p s) (hpq : ∀ c, p c = true → q c = false) :
    StartsOutside q s := fun c hc => hpq c (h c (List.mem_of_mem_head? hc))

lemma endsOutside_of_allIn (h : AllIn p s) (hpq : ∀ c, p c = true → q c = false) :
    EndsOutside q s := fun c hc => hpq c (h c (List.mem_of_getLast? hc))

/-! ## Lines as runs -/

/-- A text can be a line if it has no line feed. -/
lemma allIn_isInLine_iff : AllIn isInLine s ↔ '\n' ∉ s := by
  constructor
  · intro h hmem
    exact absurd (h '\n' hmem) (by decide)
  · intro h c hc
    exact bne_iff_ne.mpr fun heq => h (heq ▸ hc)

/-- Every line stands somewhere in the text, as a maximal run. -/
lemma exists_isMaximalRun_of_mem_lines {s line : Text} (h : line ∈ lines s) :
    ∃ before after, s = before ++ (line ++ after) ∧ IsMaximalRun isInLine before line after := by
  induction s using separatorInduction '\n' with
  | last s hfeed =>
    rw [lines, pieces_of_not_mem hfeed, List.mem_singleton] at h
    subst h
    exact ⟨[], [], by simp, allIn_isInLine_iff.mpr hfeed, endsOutside_nil, startsOutside_nil⟩
  | cut first rest hfirst ih =>
    rw [lines, pieces_append_cons hfirst, List.mem_cons] at h
    rcases h with rfl | h
    · exact ⟨[], '\n' :: rest, by simp, allIn_isInLine_iff.mpr hfirst, endsOutside_nil,
        startsOutside_cons.mpr (by decide)⟩
    · obtain ⟨before, after, hrest, hrun⟩ := ih h
      refine ⟨first ++ '\n' :: before, after, by simp [hrest], hrun.allIn, ?_, hrun.ends⟩
      rw [endsOutside_append_of_ne_nil (List.cons_ne_nil _ _)]
      cases before with
      | nil => decide
      | cons c before =>
        have hne : c :: before ≠ [] := List.cons_ne_nil c before
        exact (endsOutside_append_of_ne_nil (s := ['\n']) hne).mpr hrun.starts

/-- What stands before the first line feed is a line. -/
lemma mem_lines_append_left (h : StartsOutside isInLine after) (hline : '\n' ∉ line) :
    line ∈ lines (line ++ after) := by
  cases after with
  | nil =>
    rw [List.append_nil, lines, pieces_of_not_mem hline]
    exact List.mem_singleton_self line
  | cons c after =>
    obtain rfl : c = '\n' := by simpa [isInLine] using startsOutside_cons.mp h
    rw [lines, pieces_append_cons hline]
    exact List.mem_cons_self

/-- The lines of a text are its maximal runs of characters other than the line feed. -/
theorem mem_lines_iff : line ∈ lines s ↔
    ∃ before after, s = before ++ (line ++ after) ∧ IsMaximalRun isInLine before line after := by
  constructor
  · exact exists_isMaximalRun_of_mem_lines
  · rintro ⟨before, after, rfl, hrun⟩
    have hline : '\n' ∉ line := allIn_isInLine_iff.mp hrun.allIn
    rcases List.eq_nil_or_concat before with rfl | ⟨front, c, rfl⟩
    · exact mem_lines_append_left hrun.ends hline
    · have hstarts := hrun.starts
      rw [List.concat_eq_append] at hstarts ⊢
      rw [endsOutside_append_of_ne_nil (List.cons_ne_nil c [])] at hstarts
      obtain rfl : c = '\n' := by simpa [EndsOutside, isInLine] using hstarts
      rw [List.append_assoc, List.singleton_append, lines, pieces_append]
      exact List.mem_append_right _ (mem_lines_append_left hrun.ends hline)

/-- A line is a part of the text. -/
lemma isInfix_of_mem_lines (h : line ∈ lines s) : line <:+: s := by
  obtain ⟨before, after, rfl, -⟩ := mem_lines_iff.mp h
  exact ⟨before, after, List.append_assoc ..⟩

/-- A trimmed text is a part of the text. -/
lemma trim_isInfix (s : Text) : trim s <:+: s := by
  obtain ⟨a, b, hs, -⟩ := exists_append_trim_append s
  exact ⟨a, b, hs.symm⟩

end Statechart.Text
