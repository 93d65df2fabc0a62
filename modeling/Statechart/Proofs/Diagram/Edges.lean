import Statechart.Proofs.Diagram.Arrows
import Statechart.Proofs.Diagram.Meaning

/-!
# Edges

An edge of a machine leads from one state to another, whatever the event.  A transition of a diagram
draws an edge, which stays unless a later transition for the same state and event leads elsewhere
(`Machine.IsMeaningOf.mem_edges_iff`).

A transition without a label has its target, in upper case, as its event.  So transitions without
labels override each other if they leave the same state and their targets differ in the case of
letters alone, although states that differ in case are different states.
`Machine.edges_ofDiagram_unlabelled` says which edges remain.
-/

namespace Statechart

open Text

/-! ## Edges of a machine -/

namespace Machine

variable {m : Machine} {statements : List Statement} {source target : Text}

/-- The pairs of a state and a state that one of its events leads to. -/
def edges (m : Machine) : List (Text × Text) :=
  m.states.entries.flatMap fun entry => entry.2.on.values.map fun target => (entry.1, target)

lemma mem_edges : (source, target) ∈ m.edges ↔ ∃ state event,
    m.states.get? source = some state ∧ state.on.get? event = some target := by
  simp only [edges, Catalog.values, Catalog.get?_eq_some_iff, List.mem_flatMap, List.mem_map]
  constructor
  · rintro ⟨⟨name, state⟩, hstate, _, ⟨⟨event, other⟩, hevent, rfl⟩, heq⟩
    obtain ⟨rfl, rfl⟩ := Prod.mk.inj heq
    exact ⟨state, event, hstate, hevent⟩
  · rintro ⟨state, event, hstate, hevent⟩
    exact ⟨(source, state), hstate, target, ⟨(event, target), hevent, rfl⟩, rfl⟩

/-- The edges are the transitions that are the last ones for their state and event. -/
theorem IsMeaningOf.mem_edges_iff (h : m.IsMeaningOf statements) :
    (source, target) ∈ m.edges ↔ ∃ event,
      (statements.filterMap (Statement.targetOf? source event)).getLast? = some target := by
  rw [mem_edges]
  constructor
  · rintro ⟨state, event, hstate, hevent⟩
    exact ⟨event, by rw [← h.target source state hstate, hevent]⟩
  · rintro ⟨event, hlast⟩
    obtain ⟨st, hst, htarget⟩ := List.mem_filterMap.mp (List.mem_of_getLast? hlast)
    obtain rfl := Statement.targetOf?_eq_some_iff.mp htarget
    have hsource : source ∈ m.states.names := by
      rw [h.names, List.mem_eraseDups]
      exact List.mem_flatMap.mpr ⟨_, hst, List.mem_cons_self⟩
    obtain ⟨state, hstate⟩ := Catalog.exists_get?_eq_some hsource
    exact ⟨state, event, hstate, by rw [h.target source state hstate, hlast]⟩

end Machine

/-! ## Transitions without labels -/

namespace Text

variable {s t : Text}

/-- The texts are equal but for the case of ASCII letters. -/
def SameButCase (s t : Text) : Prop := s.map Char.toUpper = t.map Char.toUpper

instance : Decidable (SameButCase s t) := inferInstanceAs (Decidable (_ = _))

lemma upper_of_allIn_isWordChar (h : AllIn isWordChar s) : upper s = s.map Char.toUpper := by
  rw [upper, List.map_eq_flatMap]
  exact List.flatMap_congr fun c hc => (upperChar_of_isWordChar (h c hc)).1

end Text

namespace Statement

variable {source target other : Text} {pairs : List (Text × Text)}

/-- A transition without a label, as a line of a diagram. -/
def unlabelled (source target : Text) : Text := source ++ (spacedArrow ++ target)

/-- A diagram of transitions without labels, each on a line. -/
def unlabelledLines (pairs : List (Text × Text)) : Text :=
  List.intercalate ['\n'] (pairs.map fun pair => unlabelled pair.1 pair.2)

/-- Only the case of letters can make two targets share an event. -/
lemma unlabelledEvent_eq_iff (htarget : IsWord target) (hother : IsWord other) :
    unlabelledEvent target = unlabelledEvent other ↔ SameButCase target other := by
  simp [unlabelledEvent, SameButCase, upper_of_allIn_isWordChar htarget.2,
    upper_of_allIn_isWordChar hother.2]

lemma not_mem_unlabelled {c : Char} (hsource : IsWord source) (htarget : IsWord target)
    (hword : isWordChar c = false) (harrow : c ∉ spacedArrow) : c ∉ unlabelled source target := by
  simp [unlabelled, harrow, not_mem_of_allIn_isWordChar hsource.2 hword,
    not_mem_of_allIn_isWordChar htarget.2 hword]

lemma says_unlabelled (hsource : IsWord source) (htarget : IsWord target) :
    Says (unlabelled source target) (.transition source target (unlabelledEvent target)) := by
  have hmarker : ¬ Contains InitialPlace (unlabelled source target) := by
    rw [contains_initialPlace_iff]
    rintro ⟨_, link, name, rfl, -, -, hpart⟩
    have hbracket : '[' ∈ unlabelled source target := hpart.subset (by simp [outside])
    exact not_mem_unlabelled hsource htarget (by decide) (by decide) hbracket
  exact .transition hmarker (atLeftmost_of_start ⟨endsOutside_nil, source, spacedArrow, target, [],
    unlabelledEvent target, by simp [unlabelled], hsource, isLink_spacedArrow, htarget,
    startsOutside_nil, .unlabelled (by simp), rfl⟩)

lemma ofLine?_unlabelled (hsource : IsWord source) (htarget : IsWord target) :
    ofLine? (unlabelled source target) =
      some (.transition source target (unlabelledEvent target)) := by
  obtain ⟨c, rest, hcons⟩ := List.exists_cons_of_ne_nil hsource.1
  have hc : isWordChar c = true := hsource.2 c (by simp [hcons])
  have hstart : unlabelled source target = c :: (rest ++ (spacedArrow ++ target)) := by
    rw [unlabelled, hcons, List.cons_append]
  have hend : EndsOutside isBlank (unlabelled source target) := by
    simpa [unlabelled] using endsOutside_of_isWord htarget (source ++ spacedArrow)
  have htrimmed : Trimmed (unlabelled source target) := by
    refine ⟨?_, hend⟩
    rw [hstart]
    exact startsOutside_cons.mpr (isBlank_eq_false_of_isWordChar hc)
  have hcomment : c ≠ '%' := by
    rintro rfl
    exact absurd hc (by decide)
  simpa using ofLine?_of_says htrimmed hstart hcomment (says_unlabelled hsource htarget) allIn_nil
    allIn_nil

/-- Each line says one transition. -/
lemma ofDiagram_unlabelledLines (h : ∀ pair ∈ pairs, IsWord pair.1 ∧ IsWord pair.2) :
    ofDiagram (unlabelledLines pairs) =
      pairs.map fun pair => .transition pair.1 pair.2 (unlabelledEvent pair.2) := by
  by_cases hpairs : pairs = []
  · subst hpairs
    decide
  · have hlines : lines (unlabelledLines pairs) =
        pairs.map fun pair => unlabelled pair.1 pair.2 := by
      apply pieces_intercalate
      · simpa using hpairs
      · intro line hline
        obtain ⟨pair, hpair, rfl⟩ := List.mem_map.mp hline
        exact not_mem_unlabelled (h pair hpair).1 (h pair hpair).2 (by decide) (by decide)
    rw [ofDiagram, hlines, ← ofLine?_eq_byFirstRule?, List.filterMap_map, ← List.filterMap_eq_map]
    exact List.filterMap_congr fun pair hpair =>
      ofLine?_unlabelled (h pair hpair).1 (h pair hpair).2

end Statement

namespace Machine

open Statement (unlabelledEvent)

variable {pairs : List (Text × Text)} {source target : Text}

/-- The pairs that compete for one event: they leave one state, and their targets differ from the
given one in case alone. -/
def rivals (pairs : List (Text × Text)) (source target : Text) : List (Text × Text) :=
  pairs.filter fun pair => pair.1 = source ∧ SameButCase pair.2 target

lemma mem_rivals {pair : Text × Text} : pair ∈ rivals pairs source target ↔
    pair ∈ pairs ∧ pair.1 = source ∧ SameButCase pair.2 target := by
  simp [rivals]

lemma filterMap_targetOf?_unlabelled (h : ∀ pair ∈ pairs, IsWord pair.1 ∧ IsWord pair.2)
    (htarget : IsWord target) :
    (Statement.ofDiagram (Statement.unlabelledLines pairs)).filterMap
        (Statement.targetOf? source (unlabelledEvent target)) =
      (rivals pairs source target).map Prod.snd := by
  rw [Statement.ofDiagram_unlabelledLines h, List.filterMap_map, rivals, ← List.filterMap_eq_map,
    List.filterMap_filter]
  refine List.filterMap_congr fun pair hpair => ?_
  simp [Statement.targetOf?, Statement.unlabelledEvent_eq_iff (h pair hpair).2 htarget]

/-- A pair is an edge if it is the last of its rivals. -/
lemma mem_edges_unlabelled (h : ∀ pair ∈ pairs, IsWord pair.1 ∧ IsWord pair.2) :
    (source, target) ∈ (ofDiagram (Statement.unlabelledLines pairs)).edges ↔
      (rivals pairs source target).getLast? = some (source, target) := by
  rw [(isMeaningOf_ofDiagram _).mem_edges_iff]
  constructor
  · rintro ⟨event, hlast⟩
    obtain ⟨st, hst, htarget⟩ := List.mem_filterMap.mp (List.mem_of_getLast? hlast)
    obtain rfl := Statement.targetOf?_eq_some_iff.mp htarget
    rw [Statement.ofDiagram_unlabelledLines h] at hst
    obtain ⟨pair, hpair, heq⟩ := List.mem_map.mp hst
    obtain ⟨rfl, rfl, rfl⟩ := Statement.transition.inj heq
    rw [filterMap_targetOf?_unlabelled h (h pair hpair).2, List.getLast?_map,
      Option.map_eq_some_iff] at hlast
    obtain ⟨last, hlast, htarget⟩ := hlast
    have hsource := (mem_rivals.mp (List.mem_of_getLast? hlast)).2.1
    rw [hlast, ← hsource, ← htarget]
  · intro hlast
    have hpair := (mem_rivals.mp (List.mem_of_getLast? hlast)).1
    refine ⟨unlabelledEvent target, ?_⟩
    rw [filterMap_targetOf?_unlabelled h (h _ hpair).2, List.getLast?_map, hlast]
    rfl

/-- Targets that differ in case alone have the same rivals. -/
lemma rivals_congr {other : Text} (h : SameButCase other target) :
    rivals pairs source other = rivals pairs source target := by
  have hsame : ∀ text, SameButCase text other ↔ SameButCase text target := fun text =>
    ⟨fun htext => Eq.trans htext h, fun htext => Eq.trans htext (Eq.symm h)⟩
  simp only [rivals, hsame]

/-- Where no pair has another one among its rivals, each is the last of them. -/
lemma getLast?_rivals (h : ∀ source target other, (source, target) ∈ pairs →
    (source, other) ∈ pairs → SameButCase other target → other = target)
    (hpair : (source, target) ∈ pairs) :
    (rivals pairs source target).getLast? = some (source, target) := by
  have hmem : (source, target) ∈ rivals pairs source target :=
    mem_rivals.mpr ⟨hpair, rfl, rfl⟩
  obtain ⟨⟨_, other⟩, hlast⟩ : ∃ last, (rivals pairs source target).getLast? = some last :=
    ⟨_, List.getLast?_eq_some_getLast (List.ne_nil_of_mem hmem)⟩
  obtain ⟨hother, rfl, hcase⟩ := mem_rivals.mp (List.mem_of_getLast? hlast)
  rw [hlast, h _ target other hpair hother hcase]

/-- An edge of a diagram without labels is a pair that is the last of its rivals.  So the edges are
the pairs if and only if no two targets of one state differ in case alone. -/
theorem edges_ofDiagram_unlabelled (h : ∀ pair ∈ pairs, IsWord pair.1 ∧ IsWord pair.2) :
    (∀ source target, (source, target) ∈ (ofDiagram (Statement.unlabelledLines pairs)).edges ↔
      (rivals pairs source target).getLast? = some (source, target)) ∧
    ((∀ pair, pair ∈ (ofDiagram (Statement.unlabelledLines pairs)).edges ↔ pair ∈ pairs) ↔
      ∀ source target other, (source, target) ∈ pairs → (source, other) ∈ pairs →
        SameButCase other target → other = target) := by
  refine ⟨fun source target => mem_edges_unlabelled h, ?_, ?_⟩
  · intro hall source target other htarget hother hcase
    have hlast := (mem_edges_unlabelled h).mp ((hall _).mpr htarget)
    have hlast' := (mem_edges_unlabelled h).mp ((hall _).mpr hother)
    rw [rivals_congr hcase, hlast] at hlast'
    exact (congrArg Prod.snd (Option.some.inj hlast')).symm
  · rintro hcase ⟨source, target⟩
    rw [mem_edges_unlabelled h]
    exact ⟨fun hlast => (mem_rivals.mp (List.mem_of_getLast? hlast)).1, getLast?_rivals hcase⟩

/-- A pair that is drawn again is an edge, and a pair does not compete with those out of another
state. -/
theorem edges_ofDiagram_unlabelled_again :
    let pairs := [(['A'], ['b']), (['A'], ['B']), (['A'], ['b']), (['C'], ['B'])]
    (∀ pair ∈ pairs, IsWord pair.1 ∧ IsWord pair.2) ∧
      (['A'], ['b']) ∈ (ofDiagram (Statement.unlabelledLines pairs)).edges ∧
      (['A'], ['B']) ∉ (ofDiagram (Statement.unlabelledLines pairs)).edges ∧
      (['C'], ['B']) ∈ (ofDiagram (Statement.unlabelledLines pairs)).edges := by
  intro pairs
  have h : ∀ pair ∈ pairs, IsWord pair.1 ∧ IsWord pair.2 := by decide
  obtain ⟨hedge, -⟩ := edges_ofDiagram_unlabelled h
  exact ⟨h, (hedge _ _).mpr (by decide), mt (hedge _ _).mp (by decide), (hedge _ _).mpr (by decide)⟩

/-- An edge is lost with a later one to a state of the same letters. -/
theorem edges_ofDiagram_unlabelled_case :
    let pairs := [(['A'], ['b']), (['A'], ['B'])]
    (∀ pair ∈ pairs, IsWord pair.1 ∧ IsWord pair.2) ∧ (['A'], ['b']) ∈ pairs ∧
      (ofDiagram (Statement.unlabelledLines pairs)).edges = [(['A'], ['B'])] := by
  decide +kernel

end Machine

end Statechart
