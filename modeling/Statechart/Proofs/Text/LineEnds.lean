import Mathlib.Data.List.Forall2
import Statechart.Proofs.Text.Scan

/-!
# Line ends

A line may end in a line feed, or in a carriage return and a line feed.  `SameLines s t` says that
`t` comes from `s` when the carriage return is left out of some of these pairs.  Such texts are
read alike: a mark without line ends stands at the same places (`SameLines.past?`,
`SameLines.leftmost`), and their lines differ at most by a carriage return behind them
(`SameLines.lines`).

`joinLineEnds` leaves out all these carriage returns.  If a text has no others, this is how its line
ends are read from a file (`unifyLineEnds_eq_joinLineEnds`).
-/

namespace Statechart.Text

/-- The second text is the first one without some of the carriage returns that stand in front of a
line feed. -/
inductive SameLines : Text → Text → Prop
  | nil : SameLines [] []
  | cons (c : Char) {s t : Text} (h : SameLines s t) : SameLines (c :: s) (c :: t)
  | feed {s t : Text} (h : SameLines s t) : SameLines ('\r' :: '\n' :: s) ('\n' :: t)

/-- The text with a line feed in the place of each carriage return and line feed. -/
def joinLineEnds : Text → Text
  | [] => []
  | '\r' :: '\n' :: s => '\n' :: joinLineEnds s
  | c :: s => c :: joinLineEnds s

/-- Behind every carriage return stands a line feed. -/
def ReturnsBeforeFeeds (s : Text) : Prop := ∀ a b, s = a ++ '\r' :: b → ∃ t, b = '\n' :: t

variable {s s' t t' : Text} {α β : Type}

lemma sameLines_joinLineEnds (s : Text) : SameLines s (joinLineEnds s) := by
  fun_induction joinLineEnds s with
  | case1 => exact .nil
  | case2 s ih => exact .feed ih
  | case3 c s _ ih => exact .cons c ih

/-- Where a line feed follows every carriage return, no other one is turned into a line feed. -/
lemma unifyLineEnds_eq_joinLineEnds (h : ReturnsBeforeFeeds s) :
    unifyLineEnds s = joinLineEnds s := by
  fun_induction joinLineEnds s with
  | case1 => rfl
  | case2 s ih =>
    rw [unifyLineEnds, ih]
    rintro a b rfl
    exact h ('\r' :: '\n' :: a) b rfl
  | case3 c s hpair ih =>
    have hc : c ≠ '\r' := by
      rintro rfl
      obtain ⟨t, rfl⟩ := h [] s rfl
      exact hpair t rfl rfl
    rw [unifyLineEnds, if_neg hc, ih]
    · rintro a b rfl
      exact h (c :: a) b rfl
    · exact fun _ hc' => absurd hc' hc

lemma returnsBeforeFeeds_cons {c : Char} :
    ReturnsBeforeFeeds (c :: s) ↔ (c = '\r' → s.head? = some '\n') ∧ ReturnsBeforeFeeds s := by
  constructor
  · refine fun h => ⟨?_, fun a b hs => h (c :: a) b (by rw [hs, List.cons_append])⟩
    rintro rfl
    obtain ⟨t, rfl⟩ := h [] s rfl
    rfl
  · rintro ⟨hc, h⟩ a b hs
    cases a with
    | nil =>
      obtain ⟨rfl, rfl⟩ := List.cons.inj hs
      exact List.head?_eq_some_iff.mp (hc rfl)
    | cons d a => exact h a b (List.cons.inj hs).2

instance decidableReturnsBeforeFeeds : DecidablePred ReturnsBeforeFeeds
  | [] => isTrue fun a b h => absurd h (by simp)
  | _ :: s =>
    have := decidableReturnsBeforeFeeds s
    decidable_of_iff _ returnsBeforeFeeds_cons.symm

lemma isSome_eq_of_rel {R : α → β → Prop} {x : Option α} {y : Option β} (h : Option.Rel R x y) :
    x.isSome = y.isSome := by
  cases h with
  | some _ => rfl
  | none => rfl

namespace SameLines

lemma refl (s : Text) : SameLines s s := by
  induction s with
  | nil => exact .nil
  | cons c s ih => exact .cons c ih

lemma append (h : SameLines s t) (h' : SameLines s' t') : SameLines (s ++ s') (t ++ t') := by
  induction h with
  | nil => exact h'
  | cons c _ ih => exact .cons c ih
  | feed _ ih => exact .feed ih

/-- A mark without line ends stands at the start of both texts or of neither. -/
lemma past? {lead : Text} (hreturn : '\r' ∉ lead) (hfeed : '\n' ∉ lead) (h : SameLines s t) :
    Option.Rel SameLines (past? lead s) (past? lead t) := by
  induction lead generalizing s t with
  | nil => exact .some h
  | cons a lead ih =>
    rw [List.mem_cons, not_or] at hreturn hfeed
    cases h with
    | nil => exact .none
    | cons c h =>
      rw [Text.past?, Text.past?]
      split
      · exact ih hreturn.2 hfeed.2 h
      · exact .none
    | feed h =>
      rw [Text.past?, Text.past?, if_neg (Ne.symm hreturn.1), if_neg (Ne.symm hfeed.1)]
      exact .none

/-- A recogniser that finds the same in such texts, and nothing at a carriage return, finds the same
when it is tried at all places. -/
lemma leftmost {R : α → β → Prop} {f : Text → Option α} {g : Text → Option β}
    (hfg : ∀ {s t : Text}, SameLines s t → Option.Rel R (f s) (g t))
    (hreturn : ∀ s, f ('\r' :: s) = none) (h : SameLines s t) :
    Option.Rel R (leftmost f s) (leftmost g t) := by
  have here {s t : Text} {c d : Char} (hst : SameLines (c :: s) (d :: t))
      (hrest : Option.Rel R (Text.leftmost f s) (Text.leftmost g t)) :
      Option.Rel R (Text.leftmost f (c :: s)) (Text.leftmost g (d :: t)) := by
    have hhead := hfg hst
    rw [Text.leftmost, Text.leftmost]
    generalize f (c :: s) = x, g (d :: t) = y at hhead ⊢
    cases hhead with
    | some hab => exact .some hab
    | none => exact hrest
  induction h with
  | nil => exact hfg .nil
  | cons c h ih => exact here (.cons c h) ih
  | feed h ih =>
    rw [Text.leftmost, hreturn]
    exact here (.cons '\n' h) ih

lemma occurs_eq {part : Text} (hreturn : '\r' ∉ part) (hfeed : '\n' ∉ part) (hne : part ≠ [])
    (h : SameLines s t) : occurs part s = occurs part t := by
  have hnone : ∀ s, Text.past? part ('\r' :: s) = none := by
    intro s
    obtain ⟨a, part, rfl⟩ := List.exists_cons_of_ne_nil hne
    rw [List.mem_cons, not_or] at hreturn
    exact if_neg (Ne.symm hreturn.1)
  exact isSome_eq_of_rel (h.leftmost (past? hreturn hfeed) hnone)

lemma trimStart (h : SameLines s t) : SameLines (trimStart s) (trimStart t) := by
  induction h with
  | nil => exact .nil
  | cons c h ih =>
    unfold Text.trimStart at ih ⊢
    rw [List.dropWhile_cons, List.dropWhile_cons]
    split
    · exact ih
    · exact .cons c h
  | feed h ih => exact ih

/-- The lines of both texts are the same, but for a carriage return at the end. -/
lemma lines (h : SameLines s t) :
    List.Forall₂ (fun p q => p = q ∨ p = q ++ ['\r']) (lines s) (lines t) := by
  unfold Text.lines
  induction h with
  | nil => exact .cons (.inl rfl) .nil
  | @cons c s t h ih =>
    obtain ⟨p, ps, hp⟩ := List.exists_cons_of_ne_nil (pieces_ne_nil '\n' s)
    obtain ⟨q, qs, hq⟩ := List.exists_cons_of_ne_nil (pieces_ne_nil '\n' t)
    rw [pieces, pieces]
    split
    · exact .cons (.inl rfl) ih
    · rw [hp, hq] at ih ⊢
      obtain ⟨hpq, hrest⟩ := List.forall₂_cons.mp ih
      refine .cons ?_ hrest
      rcases hpq with rfl | rfl
      · exact .inl rfl
      · exact .inr rfl
  | @feed s t h ih =>
    have hs : pieces '\n' ('\r' :: '\n' :: s) = ['\r'] :: pieces '\n' s := rfl
    have ht : pieces '\n' ('\n' :: t) = [] :: pieces '\n' t := rfl
    rw [hs, ht]
    exact .cons (.inr rfl) ih

end SameLines

end Statechart.Text
