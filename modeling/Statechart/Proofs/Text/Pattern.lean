import Mathlib.Data.List.Basic
import Statechart.Proofs.Text.Scan

/-!
# Patterns and what a backtracking search finds

A reader of `Text` goes over a text once.  A pattern says what the reader looks for, and leaves it
to a search to try one way of matching after the other.  `Pattern.outcomes` lists these ways in
the order of preference, and `Pattern.search` takes the first one at the first place that has any.

`Pattern.first` asks for the first way after which a continuation succeeds.  This is how a search
backtracks: the parts of a pattern are tried one inside the other (`first_seq`), and a run gives
up or takes more characters until what follows it matches (`first_run_most`,
`first_run_fewest_eq_some_iff`).
-/

namespace Statechart.Text

/-- Whether a run of characters is as long as it can be or as short as it can be. -/
inductive Greed where
  | most
  | fewest

/-- What may stand at a place of a text. -/
inductive Pattern where
  /-- This text. -/
  | text (t : Text)
  /-- A run of at least so many characters of a class. -/
  | run (cls : Char → Bool) (least : Nat) (greed : Greed)
  /-- The pattern, with a note of the text that it took. -/
  | group (p : Pattern)
  /-- The pattern, or nothing if the pattern does not match. -/
  | option (p : Pattern)
  /-- One pattern after the other. -/
  | seq (p q : Pattern)

/-- One way in which a pattern matches: the text it takes, the text it leaves, and for each group in
the order of the opening brackets the text that the group took, if it took part. -/
structure Outcome where
  taken : Text
  rest : Text
  groups : List (Option Text)
  deriving DecidableEq

/-- Two outcomes one after the other. -/
def Outcome.andThen (o o' : Outcome) : Outcome where
  taken := o.taken ++ o'.taken
  rest := o'.rest
  groups := o.groups ++ o'.groups

/-- The ways to cut a run of a class off the start of a text, the shortest first. -/
def runs (p : Char → Bool) : Text → List (Text × Text)
  | [] => [([], [])]
  | c :: s => ([], c :: s) :: if p c then (runs p s).map fun (u, v) => (c :: u, v) else []

namespace Pattern

/-- The groups of a pattern that took no part. -/
def noGroups : Pattern → List (Option Text)
  | text _ => []
  | run _ _ _ => []
  | group p => none :: p.noGroups
  | option p => p.noGroups
  | seq p q => p.noGroups ++ q.noGroups

/-- The ways in which a run is cut off, in the order of preference. -/
def cuts (cls : Char → Bool) (least : Nat) : Greed → Text → List (Text × Text)
  | .most, s => ((runs cls s).filter fun (u, _) => least ≤ u.length).reverse
  | .fewest, s => (runs cls s).filter fun (u, _) => least ≤ u.length

/-- The ways in which a pattern matches at the start of a text, in the order of preference. -/
def outcomes : Pattern → Text → List Outcome
  | text t, s => (past? t s).toList.map fun rest => ⟨t, rest, []⟩
  | run cls least greed, s => (cuts cls least greed s).map fun (u, v) => ⟨u, v, []⟩
  | group p, s => (outcomes p s).map fun o => { o with groups := some o.taken :: o.groups }
  | option p, s => outcomes p s ++ [⟨[], s, p.noGroups⟩]
  | seq p q, s => (outcomes p s).flatMap fun o => (outcomes q o.rest).map o.andThen

/-- The preferred way to match at the first place of a text at which the pattern matches. -/
def search (p : Pattern) (s : Text) : Option Outcome :=
  leftmost (fun rest => (outcomes p rest).head?) s

/-- The first way to match after which `k` succeeds. -/
def first {α : Type} (p : Pattern) (s : Text) (k : Outcome → Option α) : Option α :=
  (outcomes p s).findSome? k

end Pattern

section Runs

variable {p : Char → Bool} {s u v : Text}

lemma mem_runs_iff : (u, v) ∈ runs p s ↔ s = u ++ v ∧ AllIn p u := by
  induction s generalizing u with
  | nil =>
    rw [runs, List.mem_singleton, Prod.mk.injEq, List.nil_eq_append_iff]
    constructor
    · rintro ⟨rfl, rfl⟩
      simp
    · rintro ⟨h, -⟩
      exact h
  | cons c s ih =>
    cases u with
    | nil => by_cases hc : p c = true <;> simp [runs, hc, eq_comm]
    | cons d u =>
      by_cases hc : p c = true
      · simp only [runs, hc, if_true, List.mem_cons, Prod.mk.injEq, reduceCtorEq, false_and,
          false_or, List.mem_map, Prod.exists, List.cons.injEq, List.cons_append, allIn_cons]
        constructor
        · rintro ⟨u', v', hmem, ⟨rfl, rfl⟩, rfl⟩
          obtain ⟨rfl, hu⟩ := ih.mp hmem
          exact ⟨⟨rfl, rfl⟩, hc, hu⟩
        · rintro ⟨⟨rfl, rfl⟩, -, hu⟩
          exact ⟨u, v, ih.mpr ⟨rfl, hu⟩, ⟨rfl, rfl⟩, rfl⟩
      · simp only [runs, hc, List.mem_cons, Prod.mk.injEq, reduceCtorEq, false_and, false_or,
          List.cons.injEq, List.cons_append, allIn_cons, Bool.false_eq_true, if_false,
          List.not_mem_nil, false_iff]
        rintro ⟨⟨rfl, -⟩, h, -⟩
        exact hc h

lemma getLast?_runs (hu : AllIn p u) (hv : StartsOutside p v) :
    (runs p (u ++ v)).getLast? = some (u, v) := by
  induction u with
  | nil =>
    cases v with
    | nil => rfl
    | cons c v => simp [runs, startsOutside_cons.mp hv]
  | cons c u ih =>
    rw [allIn_cons] at hu
    rw [List.cons_append, runs, if_pos hu.1]
    simp [List.getLast?_cons, List.getLast?_map, ih hu.2]

/-- The runs of arbitrary characters are tried place after place: the first one on which `f`
succeeds ends at the first place at which it does. -/
lemma findSome?_runs_eq_some_iff {α : Type} {f : Text × Text → Option α} {a : α} :
    (runs (fun _ => true) s).findSome? f = some a ↔
      AtLeftmost (fun before rest b => f (before, rest) = some b) s a := by
  induction s generalizing f with
  | nil =>
    rw [atLeftmost_nil_iff, runs, List.findSome?_singleton]
  | cons c s ih =>
    rw [atLeftmost_cons_iff, runs, if_pos rfl, List.findSome?_cons, List.findSome?_map]
    cases hf : f ([], c :: s) with
    | some b => simp
    | none =>
      rw [ih]
      simp

end Runs

namespace Pattern

variable {α : Type} {p q : Pattern} {s u v : Text} {o : Outcome} {k : Outcome → Option α} {a : α}
  {cls : Char → Bool} {least : Nat} {greed : Greed}

lemma mem_cuts_iff :
    (u, v) ∈ cuts cls least greed s ↔ s = u ++ v ∧ AllIn cls u ∧ least ≤ u.length := by
  cases greed <;> simp [cuts, mem_runs_iff, and_assoc]

/-- What a pattern takes and what it leaves make up the text. -/
theorem taken_append_rest (h : o ∈ outcomes p s) : o.taken ++ o.rest = s := by
  induction p generalizing s o with
  | text t =>
    simp only [outcomes, List.mem_map, Option.mem_toList, past?_eq_some_iff] at h
    obtain ⟨rest, rfl, rfl⟩ := h
    rfl
  | run cls least greed =>
    simp only [outcomes, List.mem_map, Prod.exists, mem_cuts_iff] at h
    obtain ⟨u, v, ⟨rfl, -, -⟩, rfl⟩ := h
    rfl
  | group p ih =>
    simp only [outcomes, List.mem_map] at h
    obtain ⟨o', ho', rfl⟩ := h
    exact ih (o := o') ho'
  | option p ih =>
    rcases List.mem_append.mp h with ho | ho
    · exact ih ho
    · rw [List.mem_singleton.mp ho, List.nil_append]
  | seq p q ihp ihq =>
    simp only [outcomes, List.mem_flatMap, List.mem_map] at h
    obtain ⟨o₁, h₁, o₂, h₂, rfl⟩ := h
    simp only [Outcome.andThen]
    rw [List.append_assoc, ihq h₂, ihp h₁]

/-! ## Backtracking -/

lemma head?_outcomes : (outcomes p s).head? = first p s some := by
  cases h : outcomes p s <;> simp [first, h]

lemma taken_append_rest_of_first (h : first p s some = some o) : o.taken ++ o.rest = s := by
  rw [← head?_outcomes] at h
  exact taken_append_rest (List.mem_of_mem_head? h)

/-- A search finds the first place at which the pattern matches. -/
lemma search_eq_some_iff :
    search p s = some o ↔ AtLeftmost (fun _ rest o => first p rest some = some o) s o := by
  unfold search
  rw [leftmost_eq_some_iff]
  exact atLeftmost_congr fun _ _ _ => by rw [head?_outcomes]

lemma first_text {t : Text} :
    first (text t) s k = (past? t s).bind fun rest => k ⟨t, rest, []⟩ := by
  cases h : past? t s <;> simp [first, outcomes, h]

lemma first_run :
    first (run cls least greed) s k =
      (cuts cls least greed s).findSome? fun (u, v) => k ⟨u, v, []⟩ := by
  simp [first, outcomes, List.findSome?_map, Function.comp_def]

lemma first_group :
    first (group p) s k = first p s fun o => k { o with groups := some o.taken :: o.groups } := by
  simp [first, outcomes, List.findSome?_map, Function.comp_def]

/-- The second pattern is tried inside the first, on each text that the first one leaves. -/
lemma first_seq :
    first (seq p q) s k = first p s fun o => first q o.rest fun o' => k (o.andThen o') := by
  unfold first
  rw [outcomes]
  induction outcomes p s with
  | nil => rfl
  | cons o l ih =>
    have hhead : ((outcomes q o.rest).map o.andThen).findSome? k =
        (outcomes q o.rest).findSome? fun o' => k (o.andThen o') := List.findSome?_map
    rw [List.flatMap_cons, List.findSome?_append, hhead, ih, List.findSome?_cons]
    cases (outcomes q o.rest).findSome? fun o' => k (o.andThen o') <;> rfl

/-- A run that succeeds has some length at which what follows succeeds. -/
lemma exists_of_first_run (h : first (run cls least greed) s k = some a) :
    ∃ u v, s = u ++ v ∧ AllIn cls u ∧ least ≤ u.length ∧ k ⟨u, v, []⟩ = some a := by
  rw [first_run] at h
  obtain ⟨⟨u, v⟩, hmem, hk⟩ := List.exists_of_findSome?_eq_some h
  obtain ⟨hs, hu, hlen⟩ := mem_cuts_iff.mp hmem
  exact ⟨u, v, hs, hu, hlen, hk⟩

/-- A greedy run takes all that it can, if what follows then succeeds. -/
lemma first_run_most (hu : AllIn cls u) (hv : StartsOutside cls v) (hlen : least ≤ u.length)
    (hk : k ⟨u, v, []⟩ = some a) : first (run cls least .most) (u ++ v) k = some a := by
  obtain ⟨front, hfront⟩ := List.getLast?_eq_some_iff.mp (getLast?_runs hu hv)
  rw [first_run, cuts, hfront]
  simp [hlen, hk]

/-- A lazy run of arbitrary characters ends at the first place after which what follows succeeds. -/
lemma first_run_fewest_eq_some_iff :
    first (run (fun _ => true) 0 .fewest) s k = some a ↔
      AtLeftmost (fun before rest b => k ⟨before, rest, []⟩ = some b) s a := by
  rw [first_run, cuts, List.filter_eq_self.mpr (by simp), findSome?_runs_eq_some_iff]

end Pattern

end Statechart.Text
