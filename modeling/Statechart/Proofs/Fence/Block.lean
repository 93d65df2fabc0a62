import Mathlib.Data.List.Basic
import Statechart.Fence
import Statechart.Proofs.Text.Scan

/-!
# The blocks of a document

`IsBlockAt` says what a diagram block is, and `IsDiagramOf` which block of a document counts: the
one whose opening tag is the first one.  `Fence.diagram?` goes over the document once and never
goes back.  It is shown here to find that block.

The scan has two parts.  `opened?` is tried at one place after the other and finds the first opening
tag (`opened?_eq_some_iff`).  `closed?` reads the body, and `Reading` is the invariant of its state:
no place in what has been taken for the body ends it.
-/

namespace Statechart.Fence

open Text

/-! ## Blocks -/

/-- A gap is a text of one or more blanks. -/
def IsGap (s : Text) : Prop := s ≠ [] ∧ AllIn isBlank s

/-- An opening tag stands here: a tag and a blank. -/
def Opens (s : Text) : Prop := ∃ c rest, s = tag ++ c :: rest ∧ isBlank c = true

/-- A body may end here: a gap stands here, and then a fence. -/
def Closes (s : Text) : Prop := ∃ gap post, s = gap ++ (fence ++ post) ∧ IsGap gap

/-- No opening tag starts inside the text that comes before a place. -/
def FirstOpening (markdown pre : Text) : Prop :=
  ∀ a s, markdown = a ++ s → a.length < pre.length → ¬ Opens s

/-- After `pre` stands a block with this body: gaps separate the body from both fences, it has a
first and a last character that are not blank, and it does not end earlier. -/
structure IsBlockAt (markdown pre body : Text) : Prop where
  text_eq : ∃ lead gap post,
    markdown = pre ++ (tag ++ (lead ++ (body ++ (gap ++ (fence ++ post))))) ∧ IsGap lead ∧ IsGap gap
  ne_nil : body ≠ []
  trimmed : Trimmed body
  no_end : ∀ a rest, body = a ++ rest → a ≠ [] → ¬ Closes rest

/-- The diagram of a document is the body of the block at its first opening tag. -/
def IsDiagramOf (markdown body : Text) : Prop :=
  ∃ pre, IsBlockAt markdown pre body ∧ FirstOpening markdown pre

/-- The body that ends at a place is the text before the place. -/
def BodyEnd (before rest body : Text) : Prop := body = before ∧ before ≠ [] ∧ Closes rest

/-! ## Gaps and fences -/

variable {s t u w gap lead body pre post text markdown d : Text} {c : Char}

lemma isGap_cons (hc : isBlank c = true) (h : AllIn isBlank s) : IsGap (c :: s) :=
  ⟨List.cons_ne_nil c s, allIn_cons.mpr ⟨hc, h⟩⟩

lemma isBlank_eq_false_of_mem_fence (h : c ∈ fence) : isBlank c = false := by
  have hc : c = '`' := by simpa [fence] using h
  rw [hc]
  decide

lemma startsOutside_fence_append : StartsOutside isBlank (fence ++ s) := by
  rw [fence, List.cons_append, startsOutside_cons]
  decide

/-- A body does not end in front of a character that is not blank. -/
lemma not_closes_of_startsOutside (h : StartsOutside isBlank s) : ¬ Closes s := by
  rintro ⟨gap, post, rfl, hne, hgap⟩
  exact hne (eq_nil_of_allIn_of_startsOutside_append hgap h)

/-- Behind some blanks, a body ends if there are any and a fence is next. -/
lemma closes_append_iff (hgap : AllIn isBlank gap) (hs : StartsOutside isBlank s) :
    Closes (gap ++ s) ↔ gap ≠ [] ∧ ∃ post, s = fence ++ post := by
  constructor
  · rintro ⟨gap', post, h, hne, hgap'⟩
    obtain ⟨rfl, rfl⟩ := append_inj_of_startsOutside hgap hs hgap' startsOutside_fence_append h
    exact ⟨hne, post, rfl⟩
  · rintro ⟨hne, post, rfl⟩
    exact ⟨gap, post, rfl, hne, hgap⟩

lemma Closes.append (h : Closes s) : Closes (s ++ t) := by
  obtain ⟨gap, post, rfl, hgap⟩ := h
  exact ⟨gap, post ++ t, by simp, hgap⟩

/-- A fence at the start of a text does not reach into a gap behind the text. -/
lemma exists_fence_of_append (hgap : IsGap gap) (h : s ++ (gap ++ t) = fence ++ post) :
    ∃ post', s = fence ++ post' := by
  rcases List.append_eq_append_iff.mp h with ⟨a, hfence, hrest⟩ | ⟨a, hs, -⟩
  · cases a with
    | nil =>
      rw [List.append_nil] at hfence
      exact ⟨[], by rw [hfence, List.append_nil]⟩
    | cons c a =>
      obtain ⟨hne, hblank⟩ := hgap
      obtain ⟨b, gap, rfl⟩ := List.exists_cons_of_ne_nil hne
      obtain ⟨rfl, -⟩ := List.cons.inj hrest
      have hmem : b ∈ fence := by simp [hfence]
      rw [allIn_cons, isBlank_eq_false_of_mem_fence hmem] at hblank
      exact absurd hblank.1 (by decide)
  · exact ⟨a, hs⟩

/-- A body that ends inside a text whose last character is not blank does so without the gap that
follows the text. -/
lemma closes_of_closes_append (hs : s ≠ []) (hend : EndsOutside isBlank s) (hgap : IsGap gap)
    (h : Closes (s ++ (gap ++ t))) : Closes s := by
  obtain ⟨b, e, rfl, hblank, hne, hstart⟩ :=
    exists_append_of_not_allIn (not_allIn_of_endsOutside hs hend)
  rw [List.append_assoc,
    closes_append_iff hblank ((startsOutside_append_of_ne_nil hne).mpr hstart)] at h
  obtain ⟨hbne, post, hpost⟩ := h
  rw [closes_append_iff hblank hstart]
  exact ⟨hbne, exists_fence_of_append hgap hpost⟩

/-! ## Reading the body -/

/-- The state of `closed?` in the middle of a text: the body read so far, the gap read since and
what is left, with no end of the body before the gap. -/
structure Reading (text body gap rest : Text) : Prop where
  text_eq : text = body.reverse ++ (gap.reverse ++ rest)
  gap_blank : AllIn isBlank gap
  started : body = [] → gap = [] ∧ StartsOutside isBlank rest
  no_end : ∀ a s, text = a ++ s → a.length < body.length → a ≠ [] → ¬ Closes s

lemma reading_nil (h : StartsOutside isBlank text) : Reading text [] [] text where
  text_eq := rfl
  gap_blank := allIn_nil
  started := fun _ => ⟨rfl, h⟩
  no_end := fun _ _ _ hlt => absurd hlt (Nat.not_lt_zero _)

/-- A blank belongs to the gap. -/
lemma Reading.blank (h : Reading text body gap (c :: s)) (hc : isBlank c = true) :
    Reading text body (c :: gap) s where
  text_eq := by rw [h.text_eq, List.reverse_cons, List.append_assoc, List.singleton_append]
  gap_blank := allIn_cons.mpr ⟨hc, h.gap_blank⟩
  started := by
    intro hbody
    have hout := startsOutside_cons.mp (h.started hbody).2
    rw [hc] at hout
    exact absurd hout (by decide)
  no_end := h.no_end

/-- What stands behind a place in the middle part of a text. -/
lemma eq_drop_append {a x : Text} (h : x ++ (gap ++ s) = a ++ t) (hle : x.length ≤ a.length)
    (hle' : a.length ≤ x.length + gap.length) : t = gap.drop (a.length - x.length) ++ s := by
  have hdrop := congrArg (List.drop a.length) h
  rw [List.drop_left, List.drop_append, List.drop_of_length_le hle, List.nil_append,
    List.drop_append_of_le_length (by omega)] at hdrop
  exact hdrop.symm

/-- In the gap and right behind it, the body ends only if a fence is next. -/
lemma Reading.not_closes_in_gap (h : Reading text body gap s) (hs : StartsOutside isBlank s)
    (hno : gap = [] ∨ ∀ post, s ≠ fence ++ post) {a : Text} (ha : text = a ++ t)
    (hle : body.length ≤ a.length) (hle' : a.length ≤ body.length + gap.length) : ¬ Closes t := by
  have ht : t = gap.reverse.drop (a.length - body.reverse.length) ++ s := by
    apply eq_drop_append (h.text_eq.symm.trans ha)
    · rw [List.length_reverse]
      exact hle
    · rw [List.length_reverse, List.length_reverse]
      exact hle'
  have hblank : AllIn isBlank (gap.reverse.drop (a.length - body.reverse.length)) := fun c hc =>
    h.gap_blank c (List.mem_reverse.mp (List.mem_of_mem_drop hc))
  rw [ht, closes_append_iff hblank hs]
  rintro ⟨hne, post, hpost⟩
  rcases hno with rfl | hno
  · exact hne (by simp)
  · exact hno post hpost

/-- A character that does not end the body belongs to it, with the gap before it. -/
lemma Reading.char (h : Reading text body gap (c :: s)) (hc : isBlank c = false)
    (hno : gap = [] ∨ ∀ post, c :: s ≠ fence ++ post) :
    Reading text (c :: (gap ++ body)) [] s where
  text_eq := by simp [h.text_eq]
  gap_blank := allIn_nil
  started := fun hnil => absurd hnil (List.cons_ne_nil _ _)
  no_end := by
    intro a t ha hlt hne
    rw [List.length_cons, List.length_append] at hlt
    by_cases hlt' : a.length < body.length
    · exact h.no_end a t ha hlt' hne
    · exact h.not_closes_in_gap (startsOutside_cons.mpr hc) hno ha (by omega) (by omega)

/-- A fence behind the gap ends the body. -/
lemma Reading.atLeftmost (h : Reading text body gap (fence ++ post)) (hgap : gap ≠ []) :
    AtLeftmost BodyEnd text body.reverse := by
  have hbody : body ≠ [] := fun hnil => hgap (h.started hnil).1
  refine ⟨body.reverse, gap.reverse ++ (fence ++ post), h.text_eq, ⟨rfl, ?_, ?_⟩, ?_⟩
  · exact fun hnil => hbody (List.reverse_eq_nil_iff.mp hnil)
  · refine ⟨gap.reverse, post, rfl, ?_, allIn_reverse.mpr h.gap_blank⟩
    exact fun hnil => hgap (List.reverse_eq_nil_iff.mp hnil)
  · rintro a t d ha hlt ⟨-, hne, hcloses⟩
    rw [List.length_reverse] at hlt
    exact h.no_end a t ha hlt hne hcloses

/-- A body that is still open at the end of the text never ends. -/
lemma Reading.not_contains (h : Reading text body gap []) : ¬ Contains BodyEnd text := by
  rintro ⟨a, t, d, ha, -, hne, hcloses⟩
  by_cases hlt : a.length < body.length
  · exact h.no_end a t ha hlt hne hcloses
  · have hlen : a.length ≤ body.length + gap.length := by
      have := congrArg List.length (h.text_eq ▸ ha)
      simp only [List.length_append, List.length_reverse, List.length_nil] at this
      omega
    have hfence : ∀ post, ([] : Text) ≠ fence ++ post := fun post hnil => by simp [fence] at hnil
    exact h.not_closes_in_gap startsOutside_nil (.inr hfence) ha (by omega) hlen hcloses

/-- `closed?` reads up to the first place at which the body may end. -/
lemma Reading.closed?_eq_some_iff (h : Reading text body gap s) :
    closed? body gap s = some d ↔ AtLeftmost BodyEnd text d := by
  -- The text that is left gets shorter while `text` stays, and each step keeps the invariant.
  induction s generalizing body gap with
  | nil =>
    rw [closed?]
    constructor
    · intro hnone
      exact absurd hnone (by simp)
    · intro hd
      exact absurd hd.contains h.not_contains
  | cons c s ih =>
    rw [closed?]
    split
    · next hc => exact ih (h.blank hc)
    · next hc =>
      have hout : isBlank c = false := by simpa using hc
      split
      · next hfence =>
        obtain ⟨hgap, hsome⟩ := hfence
        obtain ⟨post, hpost⟩ := Option.isSome_iff_exists.mp hsome
        rw [past?_eq_some_iff.mp hpost] at h
        have hend := h.atLeftmost hgap
        constructor
        · intro hd
          rw [← Option.some.inj hd]
          exact hend
        · intro hd
          have hunique : ∀ before rest a b, BodyEnd before rest a → BodyEnd before rest b → a = b :=
            fun _ _ _ _ ha hb => ha.1.trans hb.1.symm
          rw [hend.unique hunique hd]
      · next hfence =>
        apply ih (h.char hout _)
        by_cases hgap : gap = []
        · exact .inl hgap
        · refine .inr fun post hpost => hfence ⟨hgap, ?_⟩
          rw [hpost, past?_append]
          rfl

/-! ## Opening tags -/

/-- Blanks after a tag are an opening, and the body starts behind them. -/
lemma opened?_eq_some_iff :
    opened? s = some body ↔
      ∃ lead, s = tag ++ (lead ++ body) ∧ IsGap lead ∧ StartsOutside isBlank body := by
  unfold opened?
  constructor
  · intro h
    split at h
    · next c rest hpast =>
      split at h
      · next hc =>
        obtain ⟨w, hrest, hw, hbody⟩ := dropWhile_eq_iff.mp (Option.some.inj h)
        refine ⟨c :: w, ?_, isGap_cons hc hw, hbody⟩
        rw [past?_eq_some_iff.mp hpast, hrest, List.cons_append]
      · exact absurd h (by simp)
    · exact absurd h (by simp)
  · rintro ⟨lead, rfl, ⟨hne, hlead⟩, hbody⟩
    obtain ⟨c, w, rfl⟩ := List.exists_cons_of_ne_nil hne
    obtain ⟨hc, hw⟩ := allIn_cons.mp hlead
    rw [past?_append]
    simp only [List.cons_append, hc, if_true]
    exact congrArg some (dropWhile_append_eq hw hbody)

lemma opens_of_gap (hlead : IsGap lead) : Opens (tag ++ (lead ++ s)) := by
  obtain ⟨hne, hblank⟩ := hlead
  obtain ⟨c, w, rfl⟩ := List.exists_cons_of_ne_nil hne
  exact ⟨c, w ++ s, rfl, (allIn_cons.mp hblank).1⟩

lemma opens_iff : Opens s ↔
    ∃ lead body, s = tag ++ (lead ++ body) ∧ IsGap lead ∧ StartsOutside isBlank body := by
  constructor
  · rintro ⟨c, rest, rfl, hc⟩
    obtain ⟨w, hrest, hw, hbody⟩ := dropWhile_eq_iff.mp (rfl : rest.dropWhile isBlank = _)
    refine ⟨c :: w, rest.dropWhile isBlank, ?_, isGap_cons hc hw, hbody⟩
    rw [List.cons_append, ← hrest]
  · rintro ⟨lead, body, rfl, hlead, -⟩
    exact opens_of_gap hlead

/-- The document is cut at its first opening tag: the text before it, the gap behind it and the text
behind the gap. -/
structure IsOpenedAt (markdown pre lead body : Text) : Prop where
  text_eq : markdown = pre ++ (tag ++ (lead ++ body))
  gap : IsGap lead
  starts : StartsOutside isBlank body
  first : FirstOpening markdown pre

/-- The search for an opening tag cuts the document at the first one. -/
lemma leftmost_opened?_eq_some_iff : leftmost opened? markdown = some body ↔
    ∃ pre lead, IsOpenedAt markdown pre lead body := by
  have hopens : ∀ s, Opens s ↔ ∃ b, opened? s = some b := by
    intro s
    rw [opens_iff, exists_comm]
    exact exists_congr fun b => opened?_eq_some_iff.symm
  rw [leftmost_eq_some_iff]
  constructor
  · rintro ⟨pre, s, hm, hs, hfirst⟩
    obtain ⟨lead, rfl, hlead, hbody⟩ := opened?_eq_some_iff.mp hs
    refine ⟨pre, lead, hm, hlead, hbody, fun a t ha hlt ht => ?_⟩
    obtain ⟨b, hb⟩ := (hopens t).mp ht
    exact hfirst a t b ha hlt hb
  · rintro ⟨pre, lead, hm, hlead, hbody, hfirst⟩
    refine ⟨pre, _, hm, opened?_eq_some_iff.mpr ⟨lead, rfl, hlead, hbody⟩, ?_⟩
    intro a t b ha hlt hb
    exact hfirst a t ha hlt ((hopens t).mpr ⟨b, hb⟩)

/-- A document with an opening tag has a first one. -/
lemma exists_isOpenedAt (h : markdown = pre ++ s) (hs : Opens s) :
    ∃ pre lead body, IsOpenedAt markdown pre lead body := by
  obtain ⟨lead, body, hbody⟩ := opens_iff.mp hs
  have hcontains : Contains (fun _ rest b => opened? rest = some b) markdown :=
    ⟨pre, s, body, h, opened?_eq_some_iff.mpr ⟨lead, hbody⟩⟩
  obtain ⟨body', hbody'⟩ := hcontains.exists_atLeftmost
  obtain ⟨pre', lead', hopened⟩ :=
    leftmost_opened?_eq_some_iff.mp (leftmost_eq_some_iff.mpr hbody')
  exact ⟨pre', lead', body', hopened⟩

/-- The scan cuts the document at its first opening tag, and the body at its first end. -/
lemma diagram?_eq_some_iff : diagram? markdown = some d ↔
    ∃ pre lead body, IsOpenedAt markdown pre lead body ∧ AtLeftmost BodyEnd body d := by
  unfold diagram?
  rw [Option.bind_eq_some_iff]
  constructor
  · rintro ⟨body, hopened, hclosed⟩
    obtain ⟨pre, lead, h⟩ := leftmost_opened?_eq_some_iff.mp hopened
    exact ⟨pre, lead, body, h, (reading_nil h.starts).closed?_eq_some_iff.mp hclosed⟩
  · rintro ⟨pre, lead, body, h, hend⟩
    exact ⟨body, leftmost_opened?_eq_some_iff.mpr ⟨pre, lead, h⟩,
      (reading_nil h.starts).closed?_eq_some_iff.mpr hend⟩

/-! ## The diagram -/

/-- The first end of a body is one that no place inside the body comes before. -/
lemma atLeftmost_bodyEnd_iff_inside : AtLeftmost BodyEnd body d ↔
    ∃ rest, body = d ++ rest ∧ d ≠ [] ∧ Closes rest ∧
      ∀ a e, d = a ++ e → a ≠ [] → e ≠ [] → ¬ Closes (e ++ rest) := by
  constructor
  · rintro ⟨before, rest, rfl, ⟨rfl, hne, hcloses⟩, hfirst⟩
    refine ⟨rest, rfl, hne, hcloses, ?_⟩
    rintro a e rfl ha he hcl
    refine hfirst a (e ++ rest) a (List.append_assoc ..) ?_ ⟨rfl, ha, hcl⟩
    have hpos := List.length_pos_of_ne_nil he
    rw [List.length_append]
    omega
  · rintro ⟨rest, rfl, hne, hcloses, hno⟩
    refine ⟨d, rest, rfl, ⟨rfl, hne, hcloses⟩, ?_⟩
    rintro a t b ha hlt ⟨-, hane, hcl⟩
    rcases List.append_eq_append_iff.mp ha with ⟨e, rfl, -⟩ | ⟨e, hd, ht⟩
    · rw [List.length_append] at hlt
      omega
    · have he : e ≠ [] := by
        rintro rfl
        rw [hd, List.append_nil] at hlt
        omega
      exact hno a e hd hane he (ht ▸ hcl)

/-- A body that nothing ends before its closing ends with a character that is not blank: otherwise
it would have ended in front of its last character. -/
lemma endsOutside_of_not_closes (hne : d ≠ []) (hstart : StartsOutside isBlank d) (hs : Closes s)
    (hno : ∀ a e, d = a ++ e → a ≠ [] → e ≠ [] → ¬ Closes (e ++ s)) : EndsOutside isBlank d := by
  obtain ⟨gap, post, rfl, -, hgap⟩ := hs
  rcases List.eq_nil_or_concat d with rfl | ⟨a, c, hd⟩
  · exact absurd rfl hne
  rw [List.concat_eq_append] at hd
  rw [hd, endsOutside_append_of_ne_nil (List.cons_ne_nil c [])]
  by_contra hblank
  have hc : isBlank c = true := by simpa [EndsOutside] using hblank
  have ha : a ≠ [] := by
    rintro rfl
    rw [hd, List.nil_append, startsOutside_cons, hc] at hstart
    exact absurd hstart (by decide)
  exact hno a [c] hd ha (List.cons_ne_nil c []) ⟨c :: gap, post, rfl, isGap_cons hc hgap⟩

/-- The first end of the text behind an opening tag is the end of a block, and the other way
round. -/
lemma atLeftmost_bodyEnd_iff (hbody : StartsOutside isBlank body) : AtLeftmost BodyEnd body d ↔
    (∃ gap post, body = d ++ (gap ++ (fence ++ post)) ∧ IsGap gap) ∧ d ≠ [] ∧ Trimmed d ∧
      ∀ a rest, d = a ++ rest → a ≠ [] → ¬ Closes rest := by
  rw [atLeftmost_bodyEnd_iff_inside]
  constructor
  · rintro ⟨rest, rfl, hne, hcloses, hno⟩
    have hstart : StartsOutside isBlank d := (startsOutside_append_of_ne_nil hne).mp hbody
    have hend := endsOutside_of_not_closes hne hstart hcloses hno
    obtain ⟨gap, post, rfl, hgap⟩ := hcloses
    refine ⟨⟨gap, post, rfl, hgap⟩, hne, ⟨hstart, hend⟩, ?_⟩
    intro a e hd ha hcl
    have he : e ≠ [] := by
      rintro rfl
      exact not_closes_of_startsOutside startsOutside_nil hcl
    exact hno a e hd ha he hcl.append
  · rintro ⟨⟨gap, post, rfl, hgap⟩, hne, htrim, hno⟩
    refine ⟨gap ++ (fence ++ post), rfl, hne, ⟨gap, post, rfl, hgap⟩, ?_⟩
    rintro a e rfl ha he hcl
    have hend := (endsOutside_append_of_ne_nil he).mp htrim.2
    exact hno a e rfl ha (closes_of_closes_append he hend hgap hcl)

/-- The scan finds the diagram of the document. -/
lemma diagram?_eq_some_iff_isDiagramOf : diagram? markdown = some d ↔ IsDiagramOf markdown d := by
  rw [diagram?_eq_some_iff]
  constructor
  · rintro ⟨pre, lead, body, ⟨hm, hlead, hbody, hfirst⟩, hend⟩
    obtain ⟨⟨gap, post, rfl, hgap⟩, hne, htrim, hno⟩ := (atLeftmost_bodyEnd_iff hbody).mp hend
    exact ⟨pre, ⟨⟨lead, gap, post, hm, hlead, hgap⟩, hne, htrim, hno⟩, hfirst⟩
  · rintro ⟨pre, ⟨⟨lead, gap, post, hm, hlead, hgap⟩, hne, htrim, hno⟩, hfirst⟩
    have hbody : StartsOutside isBlank (d ++ (gap ++ (fence ++ post))) :=
      (startsOutside_append_of_ne_nil hne).mpr htrim.1
    exact ⟨pre, lead, _, ⟨hm, hlead, hbody, hfirst⟩,
      (atLeftmost_bodyEnd_iff hbody).mpr ⟨⟨gap, post, rfl, hgap⟩, hne, htrim, hno⟩⟩

/-! ## The first opening tag decides -/

/-- A gap follows a tag that starts here, then this text, and then a place where a body may end. -/
def Encloses (s inner : Text) : Prop :=
  ∃ lead rest, s = tag ++ (lead ++ (inner ++ rest)) ∧ IsGap lead ∧ Closes rest

lemma Encloses.opens {inner : Text} (h : Encloses s inner) : Opens s := by
  obtain ⟨lead, rest, rfl, hlead, -⟩ := h
  exact opens_of_gap hlead

/-- No proper end of a tag is the start of a tag. -/
lemma tag_no_overlap (htag : tag = t ++ u) (ht : t ≠ []) (hu : u ≠ []) : u ++ w ≠ tag ++ s := by
  intro h
  have hlen : t.length + u.length = 10 := by
    rw [← List.length_append, ← htag]
    rfl
  have htpos := List.length_pos_of_ne_nil ht
  have hupos := List.length_pos_of_ne_nil hu
  have hfront : tag.take (10 - t.length) = u := by
    have htake := congrArg (List.take u.length) h
    rw [List.take_left, List.take_append_of_le_length (by rw [htag, List.length_append]; omega)]
      at htake
    rw [htake]
    congr 1
    omega
  have hback : tag.drop t.length = u := by rw [htag, List.drop_left]
  have hdiffer : ∀ n < 10, 0 < n → tag.take (10 - n) ≠ tag.drop n := by decide
  exact hdiffer t.length (by omega) htpos (hfront.trans hback.symm)

/-- A tag that starts later than another one starts behind its gap, neither inside the tag nor at a
blank. -/
lemma exists_behind_gap {y : Text} (hlead : AllIn isBlank lead) (hs : Opens s) (hy : y ≠ [])
    (h : tag ++ (lead ++ body) = y ++ s) : ∃ z, body = z ++ s := by
  obtain ⟨c, rest, rfl, -⟩ := hs
  have hgap : ∀ w, AllIn isBlank w → w ++ body = tag ++ c :: rest → w = [] := by
    intro w hw hwtag
    apply eq_nil_of_allIn_of_startsOutside_append hw
    rw [hwtag, tag, List.append_assoc]
    exact startsOutside_fence_append
  rcases List.append_eq_append_iff.mp h with ⟨e, -, he⟩ | ⟨e, htag, he⟩
  · rcases List.append_eq_append_iff.mp he with ⟨e', -, hbody⟩ | ⟨e', hsplit, hrest⟩
    · exact ⟨e', hbody⟩
    · rw [hsplit, allIn_append] at hlead
      have hnil := hgap e' hlead.2 hrest.symm
      rw [hnil, List.nil_append] at hrest
      exact ⟨[], hrest.symm⟩
  · by_cases hene : e = []
    · rw [hene, List.nil_append] at he
      have hnil := hgap lead hlead he.symm
      rw [hnil, List.nil_append] at he
      exact ⟨[], he.symm⟩
    · exact absurd he.symm (tag_no_overlap htag hy hene)

/-- An opening tag is the first one, or it stands behind the gap of the first one. -/
lemma IsOpenedAt.eq_or_behind {pre' : Text} (h : IsOpenedAt markdown pre lead body)
    (hm : markdown = pre' ++ s) (hs : Opens s) :
    (pre' = pre ∧ s = tag ++ (lead ++ body)) ∨ ∃ z, body = z ++ s := by
  obtain ⟨hm', ⟨-, hblank⟩, -, hfirst⟩ := h
  have hle : pre.length ≤ pre'.length := by
    by_contra hlt
    exact hfirst pre' s hm (by omega) hs
  rcases List.append_eq_append_iff.mp (hm'.symm.trans hm) with ⟨y, hpre, hy⟩ | ⟨y, hpre, hy⟩
  · by_cases hyne : y = []
    · rw [hyne, List.append_nil] at hpre
      rw [hyne, List.nil_append] at hy
      exact .inl ⟨hpre, hy.symm⟩
    · exact .inr (exists_behind_gap hblank hs hyne hy)
  · have hnil : y = [] := by
      rw [hpre, List.length_append] at hle
      exact List.length_eq_zero_iff.mp (by omega)
    rw [hnil, List.append_nil] at hpre
    rw [hnil, List.nil_append] at hy
    exact .inl ⟨hpre.symm, hy⟩

/-- A tag inside the body that encloses something shows where the body may end. -/
lemma contains_bodyEnd_of_encloses {z inner : Text} (hs : Encloses s inner) :
    Contains BodyEnd (z ++ s) := by
  obtain ⟨lead, rest, rfl, -, hcloses⟩ := hs
  refine ⟨z ++ (tag ++ (lead ++ inner)), rest, _, ?_, rfl, ?_, hcloses⟩
  · simp only [List.append_assoc]
  · simp [tag, fence]

/-- If the body behind the first opening tag never ends, no tag of the document encloses more than
blanks. -/
lemma IsOpenedAt.allIn_of_encloses {pre' inner : Text} (h : IsOpenedAt markdown pre lead body)
    (hopen : ¬ Contains BodyEnd body) (hm : markdown = pre' ++ s) (hs : Encloses s inner) :
    AllIn isBlank inner := by
  rcases h.eq_or_behind hm hs.opens with ⟨-, hfirst⟩ | ⟨z, hz⟩
  · obtain ⟨lead', rest, hencl, ⟨-, hlead'⟩, hcloses⟩ := hs
    by_contra hnot
    obtain ⟨w, e, rfl, hw, hne, hstart⟩ := exists_append_of_not_allIn hnot
    have hsplit : lead ++ body = (lead' ++ w) ++ (e ++ rest) := by
      rw [List.append_cancel_left (hfirst.symm.trans hencl)]
      simp only [List.append_assoc]
    obtain ⟨-, hbody⟩ := append_inj_of_startsOutside h.gap.2 h.starts
      (allIn_append.mpr ⟨hlead', hw⟩) ((startsOutside_append_of_ne_nil hne).mpr hstart) hsplit
    exact hopen ⟨_, rest, _, hbody, rfl, hne, hcloses⟩
  · exact absurd (hz ▸ contains_bodyEnd_of_encloses hs) hopen

/-- Wherever a block stands in a document, there is a diagram at the first opening tag. -/
lemma exists_isDiagramOf (h : IsBlockAt markdown pre d) : ∃ d', IsDiagramOf markdown d' := by
  obtain ⟨⟨lead, gap, post, hm, hlead, hgap⟩, hne, htrim, -⟩ := h
  have hencl : Encloses (tag ++ (lead ++ (d ++ (gap ++ (fence ++ post))))) d :=
    ⟨lead, _, rfl, hlead, gap, post, rfl, hgap⟩
  obtain ⟨pre', lead', body, hopened⟩ := exists_isOpenedAt hm hencl.opens
  have hcontains : Contains BodyEnd body := by
    by_contra hno
    exact not_allIn_of_endsOutside hne htrim.2 (hopened.allIn_of_encloses hno hm hencl)
  obtain ⟨d', hd'⟩ := hcontains.exists_atLeftmost
  refine ⟨d', diagram?_eq_some_iff_isDiagramOf.mp ?_⟩
  exact diagram?_eq_some_iff.mpr ⟨pre', lead', body, hopened, hd'⟩

end Statechart.Fence
