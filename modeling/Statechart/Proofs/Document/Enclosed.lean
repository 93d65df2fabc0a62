import Mathlib.Data.List.Basic
import Statechart.Document
import Statechart.Proofs.Diagram.Trimming
import Statechart.Proofs.Fence.Block

/-!
# Documents made around a diagram

`Document.enclose pre d post` is the document in which the diagram `d` stands in a block of its own.
If nothing in front of it opens a block and the diagram holds no fence, the block is found, and the
diagram is read out of it without the blanks at its ends.  These blanks are of no account: a diagram
looks like a state diagram whether it is trimmed or not (`looksLikeStateDiagram_trim`), and it
describes the same machine.
-/

namespace Statechart.Document

open Text Fence

/-- A document with a diagram in a block, between two other texts. -/
def enclose (pre d post : Text) : Text :=
  pre ++ (tag ++ '\n' :: (d ++ '\n' :: (fence ++ post)))

/-- What a state diagram is told by: the keyword, or an initial marker. -/
def IsSign (s : Text) : Prop :=
  s = keyword ∨ ∃ gap, AllIn isBlank gap ∧ s = Statement.outside ++ (gap ++ Statement.arrow)

variable {s d pre post : Text}

/-! ## The look of a diagram -/

lemma startsInitialMarker_iff : startsInitialMarker s = true ↔
    ∃ gap rest, AllIn isBlank gap ∧
      s = Statement.outside ++ (gap ++ (Statement.arrow ++ rest)) := by
  unfold startsInitialMarker
  constructor
  · intro h
    split at h
    · next tail htail =>
      obtain ⟨rest, hrest⟩ := Option.isSome_iff_exists.mp h
      obtain ⟨gap, htail', hgap, -⟩ := dropWhile_eq_iff.mp (past?_eq_some_iff.mp hrest)
      exact ⟨gap, rest, hgap, by rw [past?_eq_some_iff.mp htail, htail']⟩
    · exact absurd h (by decide)
  · rintro ⟨gap, rest, hgap, rfl⟩
    have harrow : StartsOutside isBlank (Statement.arrow ++ rest) := startsOutside_cons.mpr rfl
    simp only [past?_append]
    rw [trimStart, dropWhile_append_eq hgap harrow, past?_append]
    rfl

/-- A diagram looks like a state diagram if it holds one of the signs. -/
lemma looksLikeStateDiagram_iff : looksLikeStateDiagram s = true ↔
    ∃ sign before rest, IsSign sign ∧ s = before ++ (sign ++ rest) := by
  unfold looksLikeStateDiagram
  rw [Bool.or_eq_true, occurs_eq_true_iff, Option.isSome_iff_ne_none, ne_eq, leftmost_eq_none_iff]
  constructor
  · rintro (⟨before, rest, rfl⟩ | h)
    · exact ⟨keyword, before, rest, .inl rfl, rfl⟩
    · simp only [not_forall] at h
      obtain ⟨before, tail, rfl, hmarker⟩ := h
      have hstarts : startsInitialMarker tail = true := by
        by_contra hno
        exact hmarker (if_neg hno)
      obtain ⟨gap, rest, hgap, rfl⟩ := startsInitialMarker_iff.mp hstarts
      exact ⟨_, before, rest, .inr ⟨gap, hgap, rfl⟩, by simp only [List.append_assoc]⟩
  · rintro ⟨sign, before, rest, rfl | ⟨gap, hgap, rfl⟩, rfl⟩
    · exact .inl ⟨before, rest, rfl⟩
    · refine .inr fun hnone => ?_
      have hstarts : startsInitialMarker
          (Statement.outside ++ (gap ++ Statement.arrow) ++ rest) = true :=
        startsInitialMarker_iff.mpr ⟨gap, rest, hgap, by simp only [List.append_assoc]⟩
      have hno := hnone before _ rfl
      rw [if_pos hstarts] at hno
      exact absurd hno (by simp)

lemma IsSign.outside (h : IsSign s) :
    s ≠ [] ∧ StartsOutside isBlank s ∧ EndsOutside isBlank s := by
  rcases h with rfl | ⟨gap, -, rfl⟩
  · exact ⟨by decide, by decide, by decide⟩
  · have harrow : EndsOutside isBlank (gap ++ Statement.arrow) :=
      (endsOutside_append_of_ne_nil (by decide)).mpr (by decide)
    refine ⟨by simp [Statement.outside], startsOutside_cons.mpr rfl, ?_⟩
    exact (endsOutside_append_of_ne_nil (by simp [Statement.arrow])).mpr harrow

/-- Trimming a diagram does not change what it looks like. -/
lemma looksLikeStateDiagram_trim (d : Text) :
    looksLikeStateDiagram (trim d) = looksLikeStateDiagram d := by
  obtain ⟨a, b, hd, ha, hb, -⟩ := exists_append_trim_append d
  rw [List.append_assoc] at hd
  rw [Bool.eq_iff_iff, looksLikeStateDiagram_iff, looksLikeStateDiagram_iff]
  constructor
  · rintro ⟨sign, before, rest, hsign, htrim⟩
    refine ⟨sign, a ++ before, rest ++ b, hsign, ?_⟩
    rw [hd, htrim]
    simp only [List.append_assoc]
  · rintro ⟨sign, before, rest, hsign, hsplit⟩
    obtain ⟨hne, hstart, hend⟩ := hsign.outside
    obtain ⟨x, y, htrim⟩ := exists_between ha hb hne hstart hend (hd.symm.trans hsplit)
    exact ⟨sign, x, y, hsign, htrim⟩

/-! ## The block of the diagram -/

/-- The first opening tag of the document is the one in front of the diagram. -/
lemma firstOpening_enclose (hpre : ∀ a s, pre = a ++ s → ¬ Opens s) :
    FirstOpening (enclose pre d post) pre := by
  intro a s hsplit hlt hopens
  obtain ⟨c, rest, rfl, hc⟩ := hopens
  have hblank : ∀ t, c :: rest ≠ tag ++ t := by
    intro t heq
    rw [(List.cons.inj heq).1] at hc
    exact absurd hc (by decide)
  rcases List.append_eq_append_iff.mp hsplit with ⟨u, ha, -⟩ | ⟨u, hu, heq⟩
  · rw [ha, List.length_append] at hlt
    omega
  · have hne : u ≠ [] := by
      rintro rfl
      rw [hu, List.append_nil] at hlt
      exact Nat.lt_irrefl _ hlt
    -- the tag ends inside the text in front, or it reaches into the tag of the block
    rcases List.append_eq_append_iff.mp heq with ⟨e, rfl, hrest⟩ | ⟨e, htag, hrest⟩
    · cases e with
      | nil => exact hblank _ hrest
      | cons c' e =>
        obtain ⟨rfl, -⟩ := List.cons.inj hrest
        exact hpre a _ hu ⟨c, e, rfl, hc⟩
    · by_cases hene : e = []
      · rw [hene, List.nil_append] at hrest
        exact hblank _ hrest.symm
      · exact tag_no_overlap htag hne hene hrest.symm

/-- The diagram of the document is the one that was put in. -/
lemma diagram?_enclose (hpre : ∀ a s, pre = a ++ s → ¬ Opens s) (hfence : occurs fence d = false)
    (hd : ¬ AllIn isBlank d) : diagram? (enclose pre d post) = some (trim d) := by
  obtain ⟨a, b, hsplit, ha, hb, htrimmed⟩ := exists_append_trim_append d
  have hne : trim d ≠ [] := by
    intro hnil
    rw [hnil, List.append_nil] at hsplit
    exact hd (hsplit ▸ allIn_append.mpr ⟨ha, hb⟩)
  have hlead : IsGap ('\n' :: a) := isGap_cons rfl ha
  have hgap : IsGap (b ++ ['\n']) := ⟨by simp, allIn_append.mpr ⟨hb, allIn_singleton.mpr rfl⟩⟩
  have htext : enclose pre d post =
      pre ++ (tag ++ ('\n' :: a ++ (trim d ++ (b ++ ['\n'] ++ (fence ++ post))))) := by
    unfold enclose
    conv_lhs => rw [hsplit]
    simp only [List.append_assoc, List.cons_append, List.nil_append]
  refine diagram?_eq_some_iff_isDiagramOf.mpr ⟨pre, ⟨⟨_, _, post, htext, hlead, hgap⟩, hne,
    htrimmed, ?_⟩, firstOpening_enclose hpre⟩
  rintro x rest htrim - ⟨gap, rest', rfl, -⟩
  refine occurs_eq_false_iff.mp hfence (a ++ x ++ gap) (rest' ++ b) ?_
  rw [hsplit, htrim]
  simp only [List.append_assoc]

/-- The document describes the machine of the diagram. -/
lemma describes_enclose (hpre : ∀ a s, pre = a ++ s → ¬ Opens s) (hfence : occurs fence d = false)
    (hd : ¬ AllIn isBlank d) (hlooks : looksLikeStateDiagram d = true) :
    describes (enclose pre d post) = .machine (.ofDiagram d) := by
  unfold describes
  rw [diagram?_enclose hpre hfence hd]
  simp only [looksLikeStateDiagram_trim, hlooks, if_true, Machine.ofDiagram_trim]

end Statechart.Document
