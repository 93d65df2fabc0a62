import Mathlib.Data.List.Basic
import Statechart.Proofs.Fence.Block
import Statechart.Proofs.Text.Pattern

/-!
# The search for a block

A block can be written as a pattern: a tag, a gap as long as possible, a body as short as
possible, a gap as long as possible and a fence.  A search for this pattern backtracks: it
shortens the first gap if nothing closes the body, and goes on to later tags.  The search is shown
here to find exactly what the scan of `Fence.diagram?` finds, so that none of this ever yields
another diagram.
-/

namespace Statechart.Fence

open Text Pattern

/-- A gap and a fence. -/
def closing : Pattern := .seq (.run isBlank 1 .most) (.text fence)

/-- A body, as short as possible, and what closes it. -/
def enclosed : Pattern := .seq (.group (.run (fun _ => true) 0 .fewest)) closing

/-- A block: its only group is the body. -/
def block : Pattern := .seq (.text tag) (.seq (.run isBlank 1 .most) enclosed)

/-- The diagram of a document according to a search for a block.  If the body that the search
finds is empty, there is no diagram. -/
def searched? (markdown : Text) : Option Text :=
  match (block.search markdown).map Outcome.groups with
  | some [some (c :: body)] => some (trim (c :: body))
  | _ => none

variable {α : Type} {s v lead body pre inner markdown d : Text} {k : Outcome → Option α} {a : α}
  {o : Outcome}

/-! ## What the parts of the pattern find -/

/-- No gap in front of a fence can be made shorter. -/
lemma first_closing_eq_some_iff : first closing s k = some a ↔
    ∃ gap post, s = gap ++ (fence ++ post) ∧ IsGap gap ∧
      k ⟨gap ++ fence, post, []⟩ = some a := by
  unfold closing
  rw [first_seq]
  constructor
  · intro h
    obtain ⟨gap, rest, rfl, hgap, hlen, hk⟩ := exists_of_first_run h
    rw [first_text, Option.bind_eq_some_iff] at hk
    obtain ⟨post, hpost, hk⟩ := hk
    have hrest : rest = fence ++ post := past?_eq_some_iff.mp hpost
    exact ⟨gap, post, by rw [hrest], ⟨List.length_pos_iff.mp hlen, hgap⟩, hk⟩
  · rintro ⟨gap, post, rfl, ⟨hne, hgap⟩, hk⟩
    apply first_run_most hgap startsOutside_fence_append (List.length_pos_iff.mpr hne)
    rw [first_text, past?_append]
    exact hk

/-- The body ends at the first place where it may. -/
lemma first_enclosed_eq_some_iff : first enclosed s k = some a ↔
    AtLeftmost (fun before rest b => ∃ gap post, rest = gap ++ (fence ++ post) ∧ IsGap gap ∧
      k ⟨before ++ (gap ++ fence), post, [some before]⟩ = some b) s a := by
  unfold enclosed
  rw [first_seq, first_group, first_run_fewest_eq_some_iff]
  exact atLeftmost_congr fun before rest b => first_closing_eq_some_iff

/-- What the search finds where it succeeds. -/
lemma exists_of_first_block (h : first block s some = some o) :
    ∃ lead inner rest, s = tag ++ (lead ++ (inner ++ rest)) ∧ IsGap lead ∧ Closes rest ∧
      o.groups = [some inner] ∧
      ∀ b t, inner ++ rest = b ++ t → b.length < inner.length → ¬ Closes t := by
  unfold block at h
  rw [first_seq, first_text, Option.bind_eq_some_iff] at h
  obtain ⟨r, hr, hk⟩ := h
  rw [first_seq] at hk
  obtain ⟨lead, v, rfl, hlead, hlen, hv⟩ := exists_of_first_run hk
  obtain ⟨inner, rest, rfl, ⟨gap, post, rfl, hgap, ho⟩, hfirst⟩ := first_enclosed_eq_some_iff.mp hv
  refine ⟨lead, inner, _, past?_eq_some_iff.mp hr, ⟨List.length_pos_iff.mp hlen, hlead⟩,
    ⟨gap, post, rfl, hgap⟩, ?_, ?_⟩
  · rw [← Option.some.inj ho]
    rfl
  · rintro b t hbt hlt ⟨gap', post', rfl, hgap'⟩
    exact hfirst b _ _ hbt hlt ⟨gap', post', rfl, hgap', rfl⟩

/-- The search succeeds at the first opening tag if the body behind it ends, and finds the body. -/
lemma exists_first_block (hlead : IsGap lead) (hbody : StartsOutside isBlank body)
    (hend : AtLeftmost BodyEnd body d) :
    ∃ o, first block (tag ++ (lead ++ body)) some = some o ∧ o.groups = [some d] := by
  obtain ⟨before, rest, rfl, ⟨rfl, hne, gap, post, rfl, hgap⟩, hfirst⟩ := hend
  let o : Outcome := ⟨tag ++ (lead ++ (d ++ (gap ++ fence))), post, [some d]⟩
  refine ⟨o, ?_, rfl⟩
  unfold block
  rw [first_seq, first_text, past?_append, Option.bind_some, first_seq]
  apply first_run_most hlead.2 hbody (List.length_pos_iff.mpr hlead.1)
  rw [first_enclosed_eq_some_iff]
  refine ⟨d, gap ++ (fence ++ post), rfl, ⟨gap, post, rfl, hgap, rfl⟩, ?_⟩
  rintro b t - hbt hlt ⟨gap', post', rfl, hgap', -⟩
  have hcloses : Closes (gap' ++ (fence ++ post')) := ⟨gap', post', rfl, hgap'⟩
  -- An empty body does not come first, because a character that is not blank follows the gap.
  have hbne : b ≠ [] := by
    rintro rfl
    rw [List.nil_append] at hbt
    rw [← hbt] at hcloses
    exact not_closes_of_startsOutside hbody hcloses
  exact hfirst b _ b hbt hlt ⟨rfl, hbne, hcloses⟩

/-! ## What the search finds -/

lemma exists_search_of_diagram? (h : diagram? markdown = some d) :
    ∃ o, block.search markdown = some o ∧ o.groups = [some d] := by
  obtain ⟨pre, lead, body, ⟨hm, hlead, hbody, hopening⟩, hend⟩ := diagram?_eq_some_iff.mp h
  obtain ⟨o, ho, hgroups⟩ := exists_first_block hlead hbody hend
  refine ⟨o, search_eq_some_iff.mpr ⟨pre, _, hm, ho, ?_⟩, hgroups⟩
  intro b t o' hbt hlt ho'
  obtain ⟨lead', inner, rest, rfl, hlead', -⟩ := exists_of_first_block ho'
  exact hopening b _ hbt hlt (opens_of_gap hlead')

/-- If the scan finds none, all that a search can find is an empty body. -/
lemma groups_eq_of_diagram?_eq_none (hnone : diagram? markdown = none)
    (h : block.search markdown = some o) : o.groups = [some []] := by
  obtain ⟨pre, s, hm, hs, -⟩ := search_eq_some_iff.mp h
  obtain ⟨lead, inner, rest, hsplit, hlead, hcloses, hgroups, hshort⟩ := exists_of_first_block hs
  have hencl : Encloses s inner := ⟨lead, rest, hsplit, hlead, hcloses⟩
  obtain ⟨pre', lead', body, hopened⟩ := exists_isOpenedAt hm hencl.opens
  have hopen : ¬ Contains BodyEnd body := by
    intro hcontains
    obtain ⟨d, hd⟩ := hcontains.exists_atLeftmost
    rw [diagram?_eq_some_iff.mpr ⟨pre', lead', body, hopened, hd⟩] at hnone
    exact absurd hnone (by simp)
  have hblank := hopened.allIn_of_encloses hopen hm hencl
  -- Blanks that could be a body are a part of the gap behind it.
  have hinner : inner = [] := by
    by_contra hne
    obtain ⟨gap, post, rfl, -, hgap⟩ := hcloses
    apply hshort [] (inner ++ (gap ++ (fence ++ post))) rfl (List.length_pos_of_ne_nil hne)
    refine ⟨inner ++ gap, post, by rw [List.append_assoc], ?_, allIn_append.mpr ⟨hblank, hgap⟩⟩
    exact List.append_ne_nil_of_left_ne_nil hne gap
  rw [hgroups, hinner]

/-- The search stops at the first opening tag or not at all. -/
lemma firstOpening_of_search (h : block.search markdown = some o)
    (hm : markdown = pre ++ (o.taken ++ o.rest)) : FirstOpening markdown pre := by
  obtain ⟨pre', s, hm', hs, hfirst⟩ := search_eq_some_iff.mp h
  obtain ⟨lead, inner, rest, hsplit, hlead, hcloses, -⟩ := exists_of_first_block hs
  have hpre : pre = pre' := by
    rw [taken_append_rest_of_first hs, hm'] at hm
    exact (List.append_cancel_right hm).symm
  have hencl : Encloses s inner := ⟨lead, rest, hsplit, hlead, hcloses⟩
  obtain ⟨pre₀, lead₀, body, hopened⟩ := exists_isOpenedAt hm' hencl.opens
  rcases hopened.eq_or_behind hm' hencl.opens with ⟨heq, -⟩ | ⟨z, hz⟩
  · rw [hpre, heq]
    exact hopened.first
  · -- A tag behind the first one would close the body of the first one, and be too late.
    have hcontains : Contains BodyEnd body := hz ▸ contains_bodyEnd_of_encloses hencl
    obtain ⟨d, hd⟩ := hcontains.exists_atLeftmost
    obtain ⟨hm₀, hlead₀, hbody, -⟩ := hopened
    obtain ⟨o', ho', -⟩ := exists_first_block hlead₀ hbody hd
    refine absurd ho' (hfirst pre₀ _ o' hm₀ ?_)
    have hlen := congrArg List.length (hm₀.symm.trans hm')
    simp only [hz, tag, fence, List.length_append, List.length_cons] at hlen
    omega

lemma searched?_eq_diagram? : searched? markdown = diagram? markdown := by
  unfold searched?
  cases hd : diagram? markdown with
  | some d =>
    obtain ⟨o, ho, hgroups⟩ := exists_search_of_diagram? hd
    obtain ⟨pre, ⟨-, hne, htrim, -⟩, -⟩ := diagram?_eq_some_iff_isDiagramOf.mp hd
    obtain ⟨c, body, rfl⟩ := List.exists_cons_of_ne_nil hne
    rw [ho, Option.map_some, hgroups]
    exact congrArg some (trim_eq_self htrim)
  | none =>
    cases hs : block.search markdown with
    | none => rfl
    | some o => rw [Option.map_some, groups_eq_of_diagram?_eq_none hd hs]

/-- What the search notes as the body needs no trimming. -/
lemma exists_groups_of_search (h : block.search markdown = some o) :
    ∃ body, o.groups = [some body] ∧ trim body = body := by
  cases hd : diagram? markdown with
  | some d =>
    obtain ⟨o', ho', hgroups⟩ := exists_search_of_diagram? hd
    obtain ⟨pre, ⟨-, -, htrim, -⟩, -⟩ := diagram?_eq_some_iff_isDiagramOf.mp hd
    rw [h, Option.some.injEq] at ho'
    exact ⟨d, ho' ▸ hgroups, trim_eq_self htrim⟩
  | none => exact ⟨[], groups_eq_of_diagram?_eq_none hd h, rfl⟩

/-- The diagram of a document is the body of the block at its first opening tag.  There is none
exactly if no body fits, and there is never a second one.  If a block stands anywhere, the first
opening tag has one.  The search for the pattern of a block finds the same diagram, never stops at
a later tag, and notes a body that needs no trimming. -/
theorem diagram?_finds_first_block (markdown : Text) :
    (∀ d, diagram? markdown = some d ↔ IsDiagramOf markdown d) ∧
    (diagram? markdown = none ↔ ∀ d, ¬ IsDiagramOf markdown d) ∧
    (∀ d d', IsDiagramOf markdown d → IsDiagramOf markdown d' → d = d') ∧
    (∀ pre d, IsBlockAt markdown pre d → ∃ d', IsDiagramOf markdown d') ∧
    searched? markdown = diagram? markdown ∧
    ∀ o, block.search markdown = some o →
      (∃ body, o.groups = [some body] ∧ trim body = body) ∧
      ∀ pre, markdown = pre ++ (o.taken ++ o.rest) → FirstOpening markdown pre := by
  refine ⟨fun d => diagram?_eq_some_iff_isDiagramOf, ?_, ?_, fun pre d => exists_isDiagramOf,
    searched?_eq_diagram?, fun o ho => ⟨exists_groups_of_search ho, fun pre =>
      firstOpening_of_search ho⟩⟩
  · rw [Option.eq_none_iff_forall_ne_some]
    exact forall_congr' fun d => not_congr diagram?_eq_some_iff_isDiagramOf
  · intro d d' hd hd'
    rw [← diagram?_eq_some_iff_isDiagramOf] at hd hd'
    exact Option.some.inj (hd.symm.trans hd')

-- A body may begin with a fence, and a fence right behind a tag does not close a block.
example : diagram? "```mermaid ```a\n```".toList = some "```a".toList ∧
    diagram? "```mermaid\n```\n```mermaid\na\n```".toList = some "```".toList := by decide

end Statechart.Fence
