import Mathlib.Data.List.Basic
import Mathlib.Data.List.TakeWhile
import Statechart.Proofs.Text.Pattern

/-!
# Patterns that spare the search

A search for a `Pattern` tries one way of matching after the other, at one place after the other.  A
`Committed` pattern forbids some of this: what stands under `commit` is matched in its first way or
not at all, and `Committed.search` passes over the places right behind a barred character.
`Committed.relax` takes the prohibitions back.

Nothing is lost if the ways that are not tried lead nowhere.  A run that takes all it can leaves no
other way to what follows it, if that refuses to start inside the run (`Pattern.settles_run`), and
then the two patterns have the same outcomes (`Committed.Faithful`).  Barred places are of no use if
a match at such a place would have been a match one place before
(`Committed.search_eq_search_relax`).
-/

namespace Statechart.Text

/-- A pattern that may commit a search to the first way of matching a part of it. -/
inductive Committed where
  /-- An ordinary pattern. -/
  | free (p : Pattern)
  /-- The pattern in its first way only. -/
  | commit (p : Committed)
  /-- The pattern, with a note of the text that it took. -/
  | group (p : Committed)
  /-- The pattern, or nothing if the pattern does not match. -/
  | option (p : Committed)
  /-- One pattern after the other. -/
  | seq (p q : Committed)

namespace Committed

/-- The pattern without its commitments. -/
def relax : Committed → Pattern
  | free p => p
  | commit p => p.relax
  | group p => .group p.relax
  | option p => .option p.relax
  | seq p q => .seq p.relax q.relax

/-- The ways in which a pattern matches at the start of a text, in the order of preference. -/
def outcomes : Committed → Text → List Outcome
  | free p, s => p.outcomes s
  | commit p, s => (outcomes p s).take 1
  | group p, s => (outcomes p s).map fun o => { o with groups := some o.taken :: o.groups }
  | option p, s => outcomes p s ++ [⟨[], s, p.relax.noGroups⟩]
  | seq p q, s => (outcomes p s).flatMap fun o => (outcomes q o.rest).map o.andThen

/-- The preferred way to match at the first place that is not right behind a barred character.
`behind` says whether the text itself stands behind one. -/
def searchFrom (barred : Char → Bool) (p : Committed) (behind : Bool) : Text → Option Outcome
  | [] => if behind then none else (p.outcomes []).head?
  | c :: s =>
    match (if behind then none else (p.outcomes (c :: s)).head?) with
    | some o => some o
    | none => searchFrom barred p (barred c) s

/-- The preferred way to match at the first place of a text that is not right behind a barred
character. -/
def search (barred : Char → Bool) (p : Committed) (s : Text) : Option Outcome :=
  searchFrom barred p false s

/-- The commitments of a pattern lose nothing: it matches in the same ways without them. -/
def Faithful (p : Committed) : Prop := ∀ s, p.outcomes s = p.relax.outcomes s

end Committed

namespace Pattern

variable {cls cls' : Char → Bool} {least : Nat} {greed : Greed} {p q r : Pattern} {s t : Text}
  {c : Char}

/-! ## What a pattern refuses -/

/-- The pattern does not match where a character of the class stands. -/
def Refuses (q : Pattern) (cls : Char → Bool) : Prop :=
  ∀ s, ¬ StartsOutside cls s → q.outcomes s = []

lemma exists_cons_of_not_startsOutside (h : ¬ StartsOutside cls s) :
    ∃ c t, s = c :: t ∧ cls c = true := by
  cases s with
  | nil => exact absurd startsOutside_nil h
  | cons c t =>
    rw [startsOutside_cons, Bool.not_eq_false] at h
    exact ⟨c, t, rfl, h⟩

lemma refuses_text (hc : cls c = false) : (text (c :: t)).Refuses cls := by
  intro s hs
  obtain ⟨d, s, rfl, hd⟩ := exists_cons_of_not_startsOutside hs
  have hne : c ≠ d := by
    rintro rfl
    rw [hc] at hd
    exact absurd hd (by decide)
  simp [outcomes, past?, hne]

lemma Refuses.group (h : p.Refuses cls) : (group p).Refuses cls := by
  intro s hs
  rw [outcomes, h s hs, List.map_nil]

lemma Refuses.seq (h : p.Refuses cls) (q : Pattern) : (seq p q).Refuses cls := by
  intro s hs
  rw [outcomes, h s hs, List.flatMap_nil]

/-- An option refuses what the pattern in it and the pattern behind it refuse. -/
lemma Refuses.option_seq (h : p.Refuses cls) (hq : q.Refuses cls) :
    (Pattern.seq (.option p) q).Refuses cls := by
  intro s hs
  simp [outcomes, h s hs, hq s hs]

/-- Where a character stands that does not belong to a run, the run is empty. -/
lemma eq_nil_of_mem_cuts (hdisjoint : ∀ c, cls c = true → cls' c = false)
    (hs : ¬ StartsOutside cls s) {u v : Text} (h : (u, v) ∈ cuts cls' least greed s) :
    u = [] ∧ v = s ∧ least = 0 := by
  obtain ⟨d, s, rfl, hd⟩ := exists_cons_of_not_startsOutside hs
  obtain ⟨hsplit, hu, hlen⟩ := mem_cuts_iff.mp h
  cases u with
  | nil => exact ⟨rfl, hsplit.symm, Nat.le_zero.mp hlen⟩
  | cons e u =>
    obtain ⟨rfl, -⟩ := List.cons.inj hsplit
    have he := (allIn_cons.mp hu).1
    rw [hdisjoint d hd] at he
    exact absurd he (by decide)

lemma refuses_run (hdisjoint : ∀ c, cls c = true → cls' c = false) (hleast : least ≠ 0) :
    (run cls' least greed).Refuses cls := by
  intro s hs
  rw [outcomes, List.map_eq_nil_iff, List.eq_nil_iff_forall_not_mem]
  rintro ⟨u, v⟩ hmem
  exact hleast (eq_nil_of_mem_cuts hdisjoint hs hmem).2.2

/-- A run in front of a pattern lets it refuse what it refuses by itself. -/
lemma Refuses.run_seq (hdisjoint : ∀ c, cls c = true → cls' c = false) (h : q.Refuses cls) :
    (Pattern.seq (run cls' least greed) q).Refuses cls := by
  intro s hs
  simp only [outcomes, List.flatMap_map, List.flatMap_eq_nil_iff, List.map_eq_nil_iff]
  rintro ⟨u, v⟩ hmem
  obtain ⟨-, rfl, -⟩ := eq_nil_of_mem_cuts hdisjoint hs hmem
  exact h v hs

/-! ## Runs that take all they can -/

/-- The longest run comes last, and what the others leave starts inside the class. -/
lemma exists_runs_eq (cls : Char → Bool) (s : Text) : ∃ shorter,
    runs cls s = shorter ++ [(s.takeWhile cls, s.dropWhile cls)] ∧
      ∀ x ∈ shorter, ¬ StartsOutside cls x.2 := by
  induction s with
  | nil => exact ⟨[], rfl, by simp⟩
  | cons c s ih =>
    obtain ⟨shorter, hruns, hshorter⟩ := ih
    by_cases hc : cls c = true
    · refine ⟨([], c :: s) :: shorter.map fun x => (c :: x.1, x.2), ?_, ?_⟩
      · rw [runs, if_pos hc, hruns, List.takeWhile_cons_of_pos hc, List.dropWhile_cons_of_pos hc]
        simp
      · intro x hx
        rcases List.mem_cons.mp hx with rfl | hx
        · rw [startsOutside_cons, hc]
          decide
        · obtain ⟨y, hy, rfl⟩ := List.mem_map.mp hx
          exact hshorter y hy
    · refine ⟨[], ?_, by simp⟩
      rw [runs, if_neg hc, List.takeWhile_cons_of_neg hc, List.dropWhile_cons_of_neg hc]
      rfl

lemma length_le_of_mem_runs {u v : Text} (h : (u, v) ∈ runs cls s) :
    u.length ≤ (s.takeWhile cls).length := by
  obtain ⟨rfl, hu⟩ := mem_runs_iff.mp h
  rw [List.takeWhile_append_of_pos hu, List.length_append]
  exact Nat.le_add_right _ _

/-- The longest run is preferred, and what the others leave starts inside the class. -/
lemma exists_cuts_eq_cons (h : least ≤ (s.takeWhile cls).length) : ∃ shorter,
    cuts cls least .most s = (s.takeWhile cls, s.dropWhile cls) :: shorter ∧
      ∀ x ∈ shorter, ¬ StartsOutside cls x.2 := by
  obtain ⟨shorter, hruns, hshorter⟩ := exists_runs_eq cls s
  refine ⟨(shorter.filter fun x => least ≤ x.1.length).reverse, ?_, ?_⟩
  · rw [cuts, hruns]
    simp [List.filter_append, h]
  · intro x hx
    exact hshorter x (List.mem_filter.mp (List.mem_reverse.mp hx)).1

/-- There is no run if the longest one is too short. -/
lemma cuts_eq_nil (h : ¬ least ≤ (s.takeWhile cls).length) : cuts cls least .most s = [] := by
  rw [List.eq_nil_iff_forall_not_mem]
  rintro ⟨u, v⟩ hmem
  obtain ⟨hs, hu, hlen⟩ := mem_cuts_iff.mp hmem
  have hle := length_le_of_mem_runs (mem_runs_iff.mpr ⟨hs, hu⟩)
  exact h (hlen.trans hle)

lemma head?_outcomes_run : ((run cls least .most).outcomes s).head? =
    if least ≤ (s.takeWhile cls).length then some ⟨s.takeWhile cls, s.dropWhile cls, []⟩
    else none := by
  rw [outcomes, List.head?_map]
  split
  · next h =>
    obtain ⟨shorter, hcuts, -⟩ := exists_cuts_eq_cons h
    rw [hcuts]
    rfl
  · next h =>
    rw [cuts_eq_nil h]
    rfl

/-! ## One pattern after the other -/

lemma andThen_comp_andThen (o o' : Outcome) : o.andThen ∘ o'.andThen = (o.andThen o').andThen := by
  funext o''
  simp [Outcome.andThen]

/-- It is of no account how three things in a row are put together. -/
lemma flatMap_andThen_assoc (l : List Outcome) (f g : Text → List Outcome) :
    ((l.flatMap fun o => (f o.rest).map o.andThen).flatMap fun o => (g o.rest).map o.andThen) =
      l.flatMap fun o =>
        ((f o.rest).flatMap fun o' => (g o'.rest).map o'.andThen).map o.andThen := by
  simp only [List.flatMap_assoc, List.flatMap_map, List.map_flatMap, List.map_map,
    andThen_comp_andThen]
  rfl

lemma outcomes_seq_seq : (seq (seq p q) r).outcomes s = (seq p (seq q r)).outcomes s := by
  simp only [outcomes]
  exact flatMap_andThen_assoc _ _ _

/-! ## Patterns that settle what follows -/

/-- Only the first way in which `p` matches can be followed by `q`. -/
def Settles (p q : Pattern) : Prop := ∀ s, ∀ o ∈ (p.outcomes s).tail, q.outcomes o.rest = []

/-- A run that takes all it can settles what refuses to start inside it. -/
lemma settles_run (h : q.Refuses cls) : Settles (run cls least .most) q := by
  intro s o ho
  by_cases hleast : least ≤ (s.takeWhile cls).length
  · obtain ⟨shorter, hcuts, hshorter⟩ := exists_cuts_eq_cons hleast
    rw [outcomes, hcuts, List.map_cons, List.tail_cons] at ho
    obtain ⟨x, hx, rfl⟩ := List.mem_map.mp ho
    exact h _ (hshorter x hx)
  · rw [outcomes, cuts_eq_nil hleast] at ho
    exact absurd ho List.not_mem_nil

lemma Settles.group (h : Settles p q) : Settles (group p) q := by
  intro s o ho
  rw [outcomes, ← List.map_tail] at ho
  obtain ⟨o', ho', rfl⟩ := List.mem_map.mp ho
  exact h s o' ho'

/-- Of a pattern that settles what follows only the first way counts. -/
lemma Settles.outcomes_seq (h : Settles p q) (s : Text) : (seq p q).outcomes s =
    ((p.outcomes s).take 1).flatMap fun o => (q.outcomes o.rest).map o.andThen := by
  have hs := h s
  rw [outcomes]
  cases houtcomes : p.outcomes s with
  | nil => rfl
  | cons o l =>
    rw [houtcomes, List.tail_cons] at hs
    have hrest : (l.flatMap fun o => (q.outcomes o.rest).map o.andThen) = [] := by
      rw [List.flatMap_eq_nil_iff]
      intro o' ho'
      rw [hs o' ho', List.map_nil]
    rw [List.flatMap_cons, hrest]
    simp

/-- A word that could be longer to the left is found one place before. -/
lemma outcomes_eq_nil_of_cons (h : q.Refuses cls) (hc : cls c = true)
    (hnil : (seq (.group (run cls 1 .most)) q).outcomes (c :: s) = []) :
    (seq (.group (run cls 1 .most)) q).outcomes s = [] := by
  have hsettles : Settles (.group (run cls 1 .most)) q := (settles_run h).group
  rw [hsettles.outcomes_seq] at hnil ⊢
  by_cases hword : 1 ≤ (s.takeWhile cls).length
  · have hword' : 1 ≤ ((c :: s).takeWhile cls).length := by
      rw [List.takeWhile_cons_of_pos hc, List.length_cons]
      omega
    obtain ⟨shorter, hcuts, -⟩ := exists_cuts_eq_cons hword
    obtain ⟨shorter', hcuts', -⟩ := exists_cuts_eq_cons hword'
    simp only [outcomes, hcuts', List.map_cons, List.take_succ_cons, List.take_zero,
      List.flatMap_cons, List.flatMap_nil, List.append_nil, List.map_eq_nil_iff,
      List.dropWhile_cons_of_pos hc] at hnil
    simp [outcomes, hcuts, hnil]
  · simp [outcomes, cuts_eq_nil hword]

/-! ## What a pattern notes -/

/-- What the groups of a pattern take, in the preferred way to match at the start of a text. -/
def groups? (p : Pattern) (s : Text) : Option (List (Option Text)) :=
  (p.outcomes s).head?.map Outcome.groups

lemma groups?_text : (text t).groups? s = (past? t s).map fun _ => [] := by
  unfold groups?
  cases h : past? t s <;> simp [outcomes, h]

/-- The groups of two patterns are those of the first and those of the second on what the first
leaves, if the first has one way to match or settles the second. -/
lemma groups?_seq (h : Settles p q) : (seq p q).groups? s =
    (p.outcomes s).head?.bind fun o => (q.groups? o.rest).map (o.groups ++ ·) := by
  unfold groups?
  rw [h.outcomes_seq]
  cases p.outcomes s with
  | nil => rfl
  | cons o l => simp [Function.comp_def, Outcome.andThen]

lemma groups?_seq_seq : (seq (seq p q) r).groups? s = (seq p (seq q r)).groups? s := by
  rw [groups?, outcomes_seq_seq, groups?]

lemma settles_text : Settles (text t) q := by
  intro s o ho
  cases h : past? t s <;> simp [outcomes, h] at ho

lemma groups?_text_seq : (seq (text t) q).groups? s = (past? t s).bind q.groups? := by
  rw [groups?_seq settles_text]
  cases h : past? t s <;> simp [outcomes, h]

lemma groups?_run_seq (h : q.Refuses cls) : (seq (run cls least .most) q).groups? s =
    if least ≤ (s.takeWhile cls).length then q.groups? (s.dropWhile cls) else none := by
  rw [groups?_seq (settles_run h), head?_outcomes_run]
  split <;> simp

/-- A group notes the run that it takes. -/
lemma groups?_group_run_seq (h : q.Refuses cls) : (seq (.group (run cls least .most)) q).groups? s =
    if least ≤ (s.takeWhile cls).length then
      (q.groups? (s.dropWhile cls)).map (some (s.takeWhile cls) :: ·)
    else none := by
  have hhead : ((Pattern.group (run cls least .most)).outcomes s).head? =
      ((run cls least .most).outcomes s).head?.map fun o =>
        { o with groups := some o.taken :: o.groups } := List.head?_map
  rw [groups?_seq (settles_run h).group, hhead, head?_outcomes_run]
  split <;> simp

lemma groups?_group_run : (Pattern.group (run cls least .most)).groups? s =
    if least ≤ (s.takeWhile cls).length then some [some (s.takeWhile cls)] else none := by
  have hhead : ((Pattern.group (run cls least .most)).outcomes s).head? =
      ((run cls least .most).outcomes s).head?.map fun o =>
        { o with groups := some o.taken :: o.groups } := List.head?_map
  rw [groups?, hhead, head?_outcomes_run]
  split <;> simp

/-- An option is left out only if nothing follows it. -/
lemma groups?_option_seq : (seq (.option p) q).groups? s =
    ((seq p q).groups? s).or ((q.groups? s).map (p.noGroups ++ ·)) := by
  have houtcomes : (seq (.option p) q).outcomes s =
      (seq p q).outcomes s ++ (q.outcomes s).map (Outcome.andThen ⟨[], s, p.noGroups⟩) := by
    simp [outcomes, List.flatMap_append]
  unfold groups?
  rw [houtcomes, List.head?_append]
  cases ((seq p q).outcomes s).head? with
  | none => simp [Function.comp_def, Outcome.andThen]
  | some o => simp

lemma groups?_option : (Pattern.option p).groups? s = some ((p.groups? s).getD p.noGroups) := by
  unfold groups?
  rw [outcomes, List.head?_append]
  cases (p.outcomes s).head? <;> simp

/-- A run is as long as it can be if what follows it never fails. -/
lemma groups?_group_run_seq_of_ne_nil (h : ∀ t, q.outcomes t ≠ []) :
    (seq (.group (run cls least .most)) q).groups? s =
      if least ≤ (s.takeWhile cls).length then
        (q.groups? (s.dropWhile cls)).map (some (s.takeWhile cls) :: ·)
      else none := by
  by_cases hleast : least ≤ (s.takeWhile cls).length
  · obtain ⟨shorter, hcuts, -⟩ := exists_cuts_eq_cons hleast
    obtain ⟨o, l, houtcomes⟩ := List.exists_cons_of_ne_nil (h (s.dropWhile cls))
    rw [if_pos hleast]
    simp [groups?, outcomes, hcuts, houtcomes, Outcome.andThen]
  · rw [if_neg hleast]
    simp [groups?, outcomes, cuts_eq_nil hleast]

end Pattern

namespace Committed

variable {p q r : Committed} {barred : Char → Bool} {s : Text}

/-! ## Commitments that lose nothing -/

lemma faithful_free (p : Pattern) : Faithful (free p) := fun _ => rfl

lemma Faithful.seq (hp : Faithful p) (hq : Faithful q) : Faithful (seq p q) := by
  have hq' : ∀ s, q.outcomes s = q.relax.outcomes s := hq
  intro s
  rw [outcomes, relax, Pattern.outcomes, hp s]
  simp only [hq']

/-- Committing to the first way of a part that settles what follows loses nothing. -/
lemma Faithful.commit_seq (hp : Faithful p) (hq : Faithful q)
    (h : Pattern.Settles p.relax q.relax) : Faithful (.seq (commit p) q) := by
  have hq' : ∀ s, q.outcomes s = q.relax.outcomes s := hq
  intro s
  rw [outcomes, outcomes, hp s]
  simp only [hq']
  exact (h.outcomes_seq s).symm

lemma Faithful.group_commit_seq (hp : Faithful p) (hq : Faithful q)
    (h : Pattern.Settles p.relax q.relax) : Faithful (.seq (group (commit p)) q) := by
  intro s
  have hgroup : Faithful (group p) := by
    intro s
    rw [outcomes, relax, Pattern.outcomes, hp s]
  have hcommit : (Committed.seq (group (commit p)) q).outcomes s =
      (Committed.seq (commit (group p)) q).outcomes s := by
    simp only [outcomes, List.map_take]
  rw [hcommit]
  exact hgroup.commit_seq hq h.group s

lemma Faithful.option_seq (hpq : Faithful (.seq p q)) (hq : Faithful q) :
    Faithful (.seq (option p) q) := by
  intro s
  have h := hpq s
  simp only [outcomes, relax, Pattern.outcomes] at h
  simp only [outcomes, relax, Pattern.outcomes, List.flatMap_append, h, List.flatMap_cons,
    List.flatMap_nil, hq s]

lemma Faithful.seq_seq (h : Faithful (.seq p (.seq q r))) : Faithful (.seq (.seq p q) r) := by
  intro s
  have hs := h s
  simp only [outcomes, relax, Pattern.outcomes] at hs ⊢
  rw [Pattern.flatMap_andThen_assoc, hs, Pattern.flatMap_andThen_assoc]

/-! ## Places that are passed over -/

/-- A search that passes over the places behind barred characters finds what a search over all
places finds, if the commitments lose nothing and no match is the first one at such a place. -/
theorem searchFrom_eq_search_relax (hp : Faithful p) (hbarred : ∀ c s, barred c = true →
      p.relax.outcomes (c :: s) = [] → p.relax.outcomes s = [])
    {behind : Bool} (hbehind : behind = true → p.relax.outcomes s = []) :
    searchFrom barred p behind s = p.relax.search s := by
  induction s generalizing behind with
  | nil =>
    have hhere : (if behind then none else (p.outcomes []).head?) =
        (p.relax.outcomes []).head? := by
      rw [hp]
      cases behind with
      | false => rfl
      | true => rw [hbehind rfl]; rfl
    exact hhere
  | cons c s ih =>
    have hhere : (if behind then none else (p.outcomes (c :: s)).head?) =
        (p.relax.outcomes (c :: s)).head? := by
      rw [hp]
      cases behind with
      | false => rfl
      | true => rw [hbehind rfl]; rfl
    rw [searchFrom, hhere, Pattern.search, leftmost]
    cases hhead : (p.relax.outcomes (c :: s)).head? with
    | some o => rfl
    | none => exact ih fun hc => hbarred c s hc (List.head?_eq_none_iff.mp hhead)

theorem search_eq_search_relax (hp : Faithful p) (hbarred : ∀ c s, barred c = true →
      p.relax.outcomes (c :: s) = [] → p.relax.outcomes s = []) (s : Text) :
    search barred p s = p.relax.search s :=
  searchFrom_eq_search_relax hp hbarred (fun h => absurd h (by decide))

end Committed

end Statechart.Text
