import Mathlib.Data.List.Basic
import Statechart.Proofs.Fence.Block

/-!
# Blocks that end at the next fence

A reader of Markdown takes the next fence for the end of a block.  `IsDiagramToNextFence` is this
reading: the text between the first opening tag and the next fence is the diagram with a gap on both
sides of it, and otherwise there is no diagram.

The scan agrees with it as long as it does not run over a fence.  A fence without a gap in front of
it does not stop the scan: an empty block, or one that is closed right behind its last character,
goes on into the text that follows it (`RunsOverFence`, `diagram?_runs_over_fences`).
-/

namespace Statechart.Fence

open Text

/-- No fence starts inside the text that comes before a place. -/
def FirstFence (text inner : Text) : Prop :=
  ∀ a s, text = a ++ (fence ++ s) → inner.length ≤ a.length

/-- The text between the first opening tag and the next fence consists of a gap, the diagram and a
gap. -/
def IsDiagramToNextFence (markdown body : Text) : Prop :=
  ∃ pre lead gap post, markdown = pre ++ (tag ++ (lead ++ (body ++ (gap ++ (fence ++ post))))) ∧
    FirstOpening markdown pre ∧ IsGap lead ∧ IsGap gap ∧ body ≠ [] ∧ Trimmed body ∧
    FirstFence (lead ++ (body ++ (gap ++ (fence ++ post)))) (lead ++ (body ++ gap))

variable {s t lead gap body post markdown d : Text}

/-- A fence starts behind the blanks that stand before it. -/
lemma exists_behind_blanks (hlead : AllIn isBlank lead) {a : Text}
    (h : lead ++ s = a ++ (fence ++ t)) : ∃ b, a = lead ++ b ∧ s = b ++ (fence ++ t) :=
  exists_behind hlead startsOutside_fence_append h

/-- Between two gaps stands no fence, if there is none in what the gaps enclose. -/
lemma firstFence_of_not_occurs (hlead : AllIn isBlank lead) (hgap : IsGap gap)
    (hbody : occurs fence body = false) :
    FirstFence (lead ++ (body ++ (gap ++ (fence ++ post)))) (lead ++ (body ++ gap)) := by
  intro a s h
  obtain ⟨b, rfl, hb⟩ := exists_behind_blanks hlead h
  rcases List.append_eq_append_iff.mp hb with ⟨c, rfl, hc⟩ | ⟨e, hbody', he⟩
  · obtain ⟨c', rfl, -⟩ := exists_behind_blanks hgap.2 hc
    simp only [List.length_append]
    omega
  · obtain ⟨post', rfl⟩ := exists_fence_of_append hgap he.symm
    exact absurd hbody' (occurs_eq_false_iff.mp hbody b post')

/-- A text in front of the first fence holds no fence. -/
lemma not_occurs_of_firstFence (hgap : IsGap gap)
    (h : FirstFence (lead ++ (body ++ (gap ++ (fence ++ post)))) (lead ++ (body ++ gap))) :
    occurs fence body = false := by
  rw [occurs_eq_false_iff]
  rintro a rest rfl
  have hle := h (lead ++ a) (rest ++ (gap ++ (fence ++ post))) (by simp only [List.append_assoc])
  have hpos := List.length_pos_of_ne_nil hgap.1
  simp only [List.length_append] at hle
  omega

/-- The diagrams that end at the next fence are those without a fence in them. -/
lemma isDiagramToNextFence_iff : IsDiagramToNextFence markdown d ↔
    diagram? markdown = some d ∧ occurs fence d = false := by
  rw [diagram?_eq_some_iff_isDiagramOf]
  constructor
  · rintro ⟨pre, lead, gap, post, hm, hopening, hlead, hgap, hne, htrim, hfence⟩
    have hno := not_occurs_of_firstFence hgap hfence
    refine ⟨⟨pre, ⟨⟨lead, gap, post, hm, hlead, hgap⟩, hne, htrim, ?_⟩, hopening⟩, hno⟩
    rintro a rest rfl - ⟨gap', post', rfl, -⟩
    exact occurs_eq_false_iff.mp hno (a ++ gap') post' (by simp only [List.append_assoc])
  · rintro ⟨⟨pre, ⟨⟨lead, gap, post, hm, hlead, hgap⟩, hne, htrim, -⟩, hopening⟩, hno⟩
    exact ⟨pre, lead, gap, post, hm, hopening, hlead, hgap, hne, htrim,
      firstFence_of_not_occurs hlead.2 hgap hno⟩

/-! ## Running over a fence -/

/-- No gap stands in front of the first fence behind the first opening tag, and the body ends
further on. -/
def RunsOverFence (markdown : Text) : Prop :=
  ∃ pre lead body inner post, IsOpenedAt markdown pre lead body ∧
    body = inner ++ (fence ++ post) ∧ FirstFence body inner ∧ EndsOutside isBlank inner ∧
    Contains BodyEnd body

/-- A text with a fence has a first one. -/
lemma exists_firstFence (h : occurs fence s = true) :
    ∃ inner post, s = inner ++ (fence ++ post) ∧ FirstFence s inner := by
  obtain ⟨a, t, hs⟩ := occurs_eq_true_iff.mp h
  have hcontains : Contains (fun _ rest post => rest = fence ++ post) s :=
    ⟨a, fence ++ t, t, hs, rfl⟩
  obtain ⟨post, inner, rest, hinner, rfl, hfirst⟩ := hcontains.exists_atLeftmost
  refine ⟨inner, post, hinner, fun b u hb => ?_⟩
  by_contra hlt
  exact hfirst b (fence ++ u) u hb (by omega) rfl

lemma exists_gap_of_not_endsOutside {inner : Text} (hstart : StartsOutside isBlank inner)
    (hend : ¬ EndsOutside isBlank inner) : ∃ a e, inner = a ++ e ∧ a ≠ [] ∧ IsGap e := by
  rcases List.eq_nil_or_concat inner with rfl | ⟨a, c, rfl⟩
  · exact absurd endsOutside_nil hend
  · rw [List.concat_eq_append] at hstart hend ⊢
    rw [endsOutside_append_of_ne_nil (List.cons_ne_nil c [])] at hend
    have hc : isBlank c = true := by simpa [EndsOutside] using hend
    refine ⟨a, [c], rfl, ?_, isGap_cons hc allIn_nil⟩
    rintro rfl
    rw [List.nil_append, startsOutside_cons, hc] at hstart
    exact absurd hstart (by decide)

/-- A diagram with a fence in it has run over the first one. -/
lemma runsOverFence_of_occurs (hd : diagram? markdown = some d) (hfence : occurs fence d = true) :
    RunsOverFence markdown := by
  obtain ⟨pre, lead, body, hopened, hend⟩ := diagram?_eq_some_iff.mp hd
  have hcontains := hend.contains
  obtain ⟨before, rest, rfl, ⟨rfl, -, -⟩, hfirst⟩ := hend
  obtain ⟨a, t, ht⟩ := occurs_eq_true_iff.mp hfence
  have hsplit : d ++ rest = a ++ (fence ++ (t ++ rest)) := by rw [ht]; simp only [List.append_assoc]
  obtain ⟨inner, post, hinner, hno⟩ := exists_firstFence (occurs_eq_true_iff.mpr ⟨a, _, hsplit⟩)
  have hlt : inner.length < d.length := by
    have hle := hno a (t ++ rest) hsplit
    have hpos : 0 < fence.length := by decide
    rw [ht]
    simp only [List.length_append]
    omega
  refine ⟨pre, lead, d ++ rest, inner, post, hopened, hinner, hno, ?_, hcontains⟩
  by_contra hblank
  -- A gap in front of the first fence would have ended the body.
  have hstart : StartsOutside isBlank inner := by
    by_cases hne : inner = []
    · rw [hne]
      exact startsOutside_nil
    · exact (startsOutside_append_of_ne_nil hne).mp (hinner ▸ hopened.starts)
  obtain ⟨a, e, rfl, hane, hgap⟩ := exists_gap_of_not_endsOutside hstart hblank
  rw [List.length_append] at hlt
  rw [List.append_assoc] at hinner
  exact hfirst a _ a hinner (by omega) ⟨rfl, hane, e, post, rfl, hgap⟩

/-- A scan that runs over a fence finds a diagram with a fence in it. -/
lemma RunsOverFence.exists_diagram? (h : RunsOverFence markdown) :
    ∃ d, diagram? markdown = some d ∧ occurs fence d = true := by
  obtain ⟨pre, lead, body, inner, post, hopened, hbody, hno, hend, hcontains⟩ := h
  obtain ⟨d, hd⟩ := hcontains.exists_atLeftmost
  refine ⟨d, diagram?_eq_some_iff.mpr ⟨pre, lead, body, hopened, hd⟩, ?_⟩
  obtain ⟨before, rest, hsplit, ⟨rfl, hne, gap, post', rfl, hgap⟩, -⟩ := hd
  rw [hsplit] at hbody
  rcases List.append_eq_append_iff.mp hbody with ⟨c, hinner, hc⟩ | ⟨c, rfl, hc⟩
  · -- The first fence would stand behind the gap, and so right behind it.
    exfalso
    obtain ⟨b, rfl, -⟩ := exists_behind_blanks hgap.2 hc
    have hle := hno (d ++ gap) post' (by rw [hsplit]; simp only [List.append_assoc])
    have hb : b = [] := by
      rw [hinner] at hle
      simp only [List.length_append] at hle
      exact List.length_eq_zero_iff.mp (by omega)
    rw [hb, List.append_nil] at hinner
    rw [hinner, endsOutside_append_of_ne_nil hgap.1] at hend
    exact not_allIn_of_endsOutside hgap.1 hend hgap.2
  · obtain ⟨t, rfl⟩ := exists_fence_of_append hgap hc.symm
    exact occurs_eq_true_iff.mpr ⟨inner, t, rfl⟩

/-- The scan reads a document up to the next fence, unless it runs over a fence. -/
theorem diagram?_ends_at_next_fence_iff (markdown : Text) :
    (∀ d, diagram? markdown = some d ↔ IsDiagramToNextFence markdown d) ↔
      ¬ RunsOverFence markdown := by
  constructor
  · intro h hover
    obtain ⟨d, hd, hfence⟩ := hover.exists_diagram?
    rw [(isDiagramToNextFence_iff.mp ((h d).mp hd)).2] at hfence
    exact absurd hfence (by decide)
  · intro h d
    rw [isDiagramToNextFence_iff]
    constructor
    · intro hd
      refine ⟨hd, ?_⟩
      rw [← Bool.not_eq_true]
      exact fun hfence => h (runsOverFence_of_occurs hd hfence)
    · rintro ⟨hd, -⟩
      exact hd

/-- An empty block is not taken for one: its diagram is its closing fence and the text up to the
next block. -/
theorem diagram?_runs_over_fences :
    diagram? "```mermaid\n```\nprose\n```python\nx\n```\n".toList = some "```\nprose".toList ∧
      ∀ d, ¬ IsDiagramToNextFence "```mermaid\n```\nprose\n```python\nx\n```\n".toList d := by
  have hd : diagram? "```mermaid\n```\nprose\n```python\nx\n```\n".toList =
      some "```\nprose".toList := by decide
  refine ⟨hd, fun d h => ?_⟩
  obtain ⟨hd', hno⟩ := isDiagramToNextFence_iff.mp h
  rw [hd, Option.some.injEq] at hd'
  rw [← hd'] at hno
  exact absurd hno (by decide)

end Statechart.Fence
