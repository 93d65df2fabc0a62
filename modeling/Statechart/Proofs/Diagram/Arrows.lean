import Statechart.Proofs.Diagram.Written

/-!
# Arrows in a line

The first three rules look for an arrow between two ends, a word or the outside.  They ask for whole
words, but not to decide whether they fit: a word that is cut short can be made whole.  So a rule
has a place in a text if and only if the text holds an arrow between two ends of the right kind as a
part (`contains_initialPlace_iff` and its two siblings).

Such a part has no quote in it and does not do without the head of an arrow.  It follows that in a
text with quotes it stands between two of them, or before the first, or behind the last.
-/

namespace Statechart

open Text

/-- A part of a text that does not hold the separator stands on one side of it. -/
lemma Text.infix_of_infix_append_cons {sep : Char} {part s t : Text} (hsep : sep ∉ part)
    (h : part <:+: s ++ sep :: t) : part <:+: s ∨ part <:+: t := by
  have hfront : ∀ {front : Text}, sep ∉ front → front <+: sep :: t → front = [] := by
    intro front hno hpre
    rcases List.prefix_cons_iff.mp hpre with hnil | ⟨rest, rfl, -⟩
    · exact hnil
    · exact absurd List.mem_cons_self hno
  rcases List.infix_append_iff.mp h with hs | ht | ⟨a, b, rfl, ha, hb⟩
  · exact .inl hs
  · rcases List.infix_cons_iff.mp ht with hpre | hinfix
    · rw [hfront hsep hpre]
      exact .inl List.nil_infix
    · exact .inr hinfix
  · rw [List.mem_append, not_or] at hsep
    rw [hfront hsep.2 hb, List.append_nil]
    exact .inl ha.isInfix

namespace Statement

variable {left right : Text → Prop} {s t w : Text}

/-- An arrow between an end of one kind and an end of another is part of the text. -/
def HoldsArrow (left right : Text → Prop) (s : Text) : Prop :=
  ∃ a link b, left a ∧ IsLink link ∧ right b ∧ a ++ (link ++ b) <:+: s

lemma HoldsArrow.mono (h : HoldsArrow left right s) (hst : s <:+: t) : HoldsArrow left right t := by
  obtain ⟨a, link, b, ha, hlink, hb, hpart⟩ := h
  exact ⟨a, link, b, ha, hlink, hb, hpart.trans hst⟩

/-! ### Words made whole -/

lemma exists_word_append (hw : IsWord w) (tail : Text) : ∃ w' tail', w ++ tail = w' ++ tail' ∧
    IsWord w' ∧ StartsOutside isWordChar tail' := by
  refine ⟨w ++ tail.takeWhile isWordChar, tail.dropWhile isWordChar, ?_, ⟨?_, ?_⟩,
    startsOutside_dropWhile _ _⟩
  · rw [List.append_assoc, List.takeWhile_append_dropWhile]
  · exact List.append_ne_nil_of_left_ne_nil hw.1 _
  · exact allIn_append.mpr ⟨hw.2, allIn_takeWhile _ _⟩

lemma exists_append_word (hw : IsWord w) (before : Text) : ∃ before' w',
    before ++ w = before' ++ w' ∧ IsWord w' ∧ EndsOutside isWordChar before' := by
  have hreverse : IsWord w.reverse := ⟨by simpa using hw.1, allIn_reverse.mpr hw.2⟩
  obtain ⟨w', tail', hsplit, hw', htail'⟩ := exists_word_append hreverse before.reverse
  refine ⟨tail'.reverse, w'.reverse, ?_, ⟨by simpa using hw'.1, allIn_reverse.mpr hw'.2⟩,
    endsOutside_reverse.mpr htail'⟩
  rw [← List.reverse_append, ← hsplit, List.reverse_append, List.reverse_reverse,
    List.reverse_reverse]

/-! ### Rules that fit -/

/-- The first rule fits if a word is behind an arrow out of the outside. -/
theorem contains_initialPlace_iff :
    Contains InitialPlace s ↔ HoldsArrow (· = outside) IsWord s := by
  constructor
  · rintro ⟨before, -, -, rfl, link, name, tail, rfl, hlink, hname, -, -⟩
    exact ⟨outside, link, name, rfl, hlink, hname, before, tail, by simp only [List.append_assoc]⟩
  · rintro ⟨_, link, name, rfl, hlink, hname, before, tail, rfl⟩
    obtain ⟨name', tail', hsplit, hname', htail'⟩ := exists_word_append hname tail
    refine ⟨before, outside ++ link ++ name' ++ tail', .initial name', ?_, link, name', tail', rfl,
      hlink, hname', htail', rfl⟩
    simp only [List.append_assoc, hsplit]

/-- The second rule fits if an arrow is between two words. -/
theorem contains_transitionPlace_iff :
    Contains TransitionPlace s ↔ HoldsArrow IsWord IsWord s := by
  constructor
  · rintro ⟨before, -, -, rfl, -, source, link, target, tail, -, rfl, hsource, hlink, htarget, -⟩
    exact ⟨source, link, target, hsource, hlink, htarget, before, tail,
      by simp only [List.append_assoc]⟩
  · rintro ⟨source, link, target, hsource, hlink, htarget, before, tail, rfl⟩
    obtain ⟨before', source', hfront, hsource', hbefore'⟩ := exists_append_word hsource before
    obtain ⟨target', tail', hback, htarget', htail'⟩ := exists_word_append htarget tail
    refine ⟨before', source' ++ link ++ target' ++ tail', .transition source' target' _, ?_,
      hbefore', source', link, target', tail', _, rfl, hsource', hlink, htarget', htail',
      eventOf_iff.mpr rfl, rfl⟩
    calc before ++ (source ++ (link ++ target)) ++ tail
        = (before ++ source) ++ (link ++ (target ++ tail)) := by simp only [List.append_assoc]
      _ = (before' ++ source') ++ (link ++ (target' ++ tail')) := by rw [hfront, hback]
      _ = before' ++ (source' ++ link ++ target' ++ tail') := by simp only [List.append_assoc]

/-- The third rule fits if a word is in front of an arrow to the outside. -/
theorem contains_finalPlace_iff :
    Contains FinalPlace s ↔ HoldsArrow IsWord (· = outside) s := by
  constructor
  · rintro ⟨before, -, -, rfl, -, name, link, tail, rfl, hname, hlink, -⟩
    exact ⟨name, link, outside, hname, hlink, rfl, before, tail, by simp only [List.append_assoc]⟩
  · rintro ⟨name, link, _, hname, hlink, rfl, before, tail, rfl⟩
    obtain ⟨before', name', hfront, hname', hbefore'⟩ := exists_append_word hname before
    refine ⟨before', name' ++ link ++ outside ++ tail, .final name', ?_, hbefore', name', link,
      tail, rfl, hname', hlink, rfl⟩
    calc before ++ (name ++ (link ++ outside)) ++ tail
        = (before ++ name) ++ (link ++ (outside ++ tail)) := by simp only [List.append_assoc]
      _ = (before' ++ name') ++ (link ++ (outside ++ tail)) := by rw [hfront]
      _ = before' ++ (name' ++ link ++ outside ++ tail) := by simp only [List.append_assoc]

/-- One of the first three rules fits. -/
def FitsArrow (s : Text) : Prop :=
  Contains InitialPlace s ∨ Contains TransitionPlace s ∨ Contains FinalPlace s

instance : Decidable (Contains InitialPlace s) :=
  decidable_of_iff (¬ initial? s = none)
    ((not_congr (eq_none_iff_not_contains fun _ => initial?_eq_some_iff)).trans not_not)

instance : Decidable (Contains TransitionPlace s) :=
  decidable_of_iff (¬ transition? s = none)
    ((not_congr (eq_none_iff_not_contains fun _ => transition?_eq_some_iff)).trans not_not)

instance : Decidable (Contains FinalPlace s) :=
  decidable_of_iff (¬ final? s = none)
    ((not_congr (eq_none_iff_not_contains fun _ => final?_eq_some_iff)).trans not_not)

instance : Decidable (FitsArrow s) := inferInstanceAs (Decidable (_ ∨ _ ∨ _))

/-! ### Arrows in parts of a text -/

/-- The end of an arrow: the outside or a word. -/
def IsEnd (s : Text) : Prop := s = outside ∨ IsWord s

lemma IsEnd.no_quote (h : IsEnd s) : '"' ∉ s := by
  rcases h with rfl | hword
  · decide
  · exact not_mem_of_allIn_isWordChar hword.2 (by decide)

/-- A link consists of blanks and an arrow. -/
lemma IsLink.not_mem {c : Char} (h : IsLink s) (hblank : isAsciiBlank c = false)
    (harrow : c ∉ arrow) : c ∉ s := by
  obtain ⟨a, b, rfl, ha, hb⟩ := h
  simp [ha.not_mem hblank, hb.not_mem hblank, harrow]

lemma IsLink.no_quote (h : IsLink s) : '"' ∉ s := h.not_mem (by decide) (by decide)

/-- A text with one arrow is cut by arrows in one way. -/
lemma append_arrow_inj {x y x' y' : Text} (hx : '>' ∉ x) (hy : '>' ∉ y)
    (h : x ++ (arrow ++ y) = x' ++ (arrow ++ y')) : x = x' ∧ y = y' := by
  have hcut : (x ++ ['-', '-']) ++ '>' :: y = (x' ++ ['-', '-']) ++ '>' :: y' := by
    simpa [arrow] using h
  have hfront : '>' ∉ x ++ ['-', '-'] := by simp [hx]
  obtain ⟨hleft, -, hright⟩ := (List.append_cons_inj_of_notMem hfront hy).mp hcut
  exact ⟨List.append_cancel_right hleft, hright⟩

/-- An arrow stands between quotes, if there are any. -/
lemma HoldsArrow.of_quote (hleft : ∀ a, left a → IsEnd a) (hright : ∀ b, right b → IsEnd b)
    (h : HoldsArrow left right (s ++ '"' :: t)) :
    HoldsArrow left right s ∨ HoldsArrow left right t := by
  obtain ⟨a, link, b, ha, hlink, hb, hpart⟩ := h
  have hquote : '"' ∉ a ++ (link ++ b) := by
    simp [(hleft a ha).no_quote, hlink.no_quote, (hright b hb).no_quote]
  rcases infix_of_infix_append_cons hquote hpart with hs | ht
  · exact .inl ⟨a, link, b, ha, hlink, hb, hs⟩
  · exact .inr ⟨a, link, b, ha, hlink, hb, ht⟩

/-- A text with an arrow holds the head of the arrow. -/
lemma HoldsArrow.mem (h : HoldsArrow left right s) : '>' ∈ s := by
  obtain ⟨a, link, b, -, hlink, -, hpart⟩ := h
  exact hpart.subset (by simp [hlink.mem])

lemma fitsArrow_iff : FitsArrow s ↔ HoldsArrow (· = outside) IsWord s ∨
    HoldsArrow IsWord IsWord s ∨ HoldsArrow IsWord (· = outside) s := by
  unfold FitsArrow
  rw [contains_initialPlace_iff, contains_transitionPlace_iff, contains_finalPlace_iff]

lemma FitsArrow.mono (h : FitsArrow s) (hst : s <:+: t) : FitsArrow t := by
  rw [fitsArrow_iff] at h ⊢
  rcases h with h | h | h
  · exact .inl (h.mono hst)
  · exact .inr (.inl (h.mono hst))
  · exact .inr (.inr (h.mono hst))

lemma FitsArrow.mem (h : FitsArrow s) : '>' ∈ s := by
  rcases fitsArrow_iff.mp h with h | h | h
  · exact h.mem
  · exact h.mem
  · exact h.mem

/-- If one of the first three rules fits a text with a quote, it fits on one side of the quote. -/
lemma FitsArrow.of_quote (h : FitsArrow (s ++ '"' :: t)) : FitsArrow s ∨ FitsArrow t := by
  rw [fitsArrow_iff, fitsArrow_iff]
  have houtside : ∀ a, a = outside → IsEnd a := fun _ ha => .inl ha
  have hword : ∀ a, IsWord a → IsEnd a := fun _ ha => .inr ha
  rcases fitsArrow_iff.mp h with h | h | h
  · exact (h.of_quote houtside hword).imp .inl .inl
  · exact (h.of_quote hword hword).imp (.inr ∘ .inl) (.inr ∘ .inl)
  · exact (h.of_quote hword houtside).imp (.inr ∘ .inr) (.inr ∘ .inr)

end Statement

end Statechart
