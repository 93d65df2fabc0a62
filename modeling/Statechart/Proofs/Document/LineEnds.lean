import Mathlib.Data.List.Forall2
import Statechart.Document
import Statechart.Proofs.Text.LineEnds

/-!
# Documents with other line ends

A document is read alike whether its lines end in a line feed or in a carriage return and a line
feed, even if both kinds are mixed.  The carriage returns are blanks to the search for the block,
so the same block is found (`diagram?_sameLines`); no sign of a state diagram has a line end in a
place where only one kind would do (`looksLikeStateDiagram_sameLines`); and each line of the
diagram is trimmed before it is read (`ofDiagram_sameLines`).
-/

namespace Statechart

open Text

variable {s t : Text}

namespace Fence

/-- The scan of the body goes on alike in both texts: it has read the same but for line ends. -/
lemma closed?_sameLines (h : SameLines s t) {body gap body' gap' : Text}
    (hbody : SameLines body.reverse body'.reverse)
    (hgap : SameLines (gap ++ body).reverse (gap' ++ body').reverse) (hnil : gap = [] ↔ gap' = []) :
    Option.Rel SameLines (closed? body gap s) (closed? body' gap' t) := by
  induction h generalizing body gap body' gap' with
  | nil => exact .none
  | @cons c s t h ih =>
    have hnext : SameLines (c :: (gap ++ body)).reverse (c :: (gap' ++ body')).reverse := by
      rw [List.reverse_cons, List.reverse_cons]
      exact hgap.append (.refl [c])
    have hfence : (past? fence (c :: s)).isSome = (past? fence (c :: t)).isSome :=
      isSome_eq_of_rel (SameLines.past? (by decide) (by decide) (.cons c h))
    rw [closed?, closed?]
    by_cases hc : isBlank c = true
    · rw [if_pos hc, if_pos hc]
      exact ih hbody hnext (by simp)
    · rw [if_neg hc, if_neg hc, hfence]
      simp only [ne_eq, hnil]
      split
      · exact .some hbody
      · exact ih hnext hnext Iff.rfl
  | @feed s t h ih =>
    have hends : SameLines ['\r', '\n'] ['\n'] := .feed .nil
    have hnext : SameLines ('\n' :: '\r' :: (gap ++ body)).reverse
        ('\n' :: (gap' ++ body')).reverse := by
      simpa using hgap.append hends
    have hreturn : isBlank '\r' = true := rfl
    have hfeed : isBlank '\n' = true := rfl
    rw [closed?, if_pos hreturn, closed?, if_pos hfeed, closed?, if_pos hfeed]
    exact ih hbody hnext (by simp)

lemma opened?_sameLines (h : SameLines s t) :
    Option.Rel SameLines (opened? s) (opened? t) := by
  have htag : Option.Rel SameLines (past? tag s) (past? tag t) :=
    SameLines.past? (by decide) (by decide) h
  unfold opened?
  generalize past? tag s = x, past? tag t = y at htag ⊢
  cases htag with
  | none => exact .none
  | some hrest =>
    cases hrest with
    | nil => exact .none
    | cons c hrest =>
      by_cases hc : isBlank c = true
      · simpa only [if_pos hc] using .some hrest.trimStart
      · simpa only [if_neg hc] using .none
    | feed hrest => exact .some hrest.trimStart

/-- The diagrams of such documents are the same but for their line ends. -/
lemma diagram?_sameLines (h : SameLines s t) :
    Option.Rel SameLines (diagram? s) (diagram? t) := by
  have hopened := h.leftmost (f := opened?) (g := opened?) opened?_sameLines fun _ => rfl
  unfold diagram?
  generalize leftmost opened? s = x, leftmost opened? t = y at hopened ⊢
  cases hopened with
  | none => exact .none
  | some hbody => exact closed?_sameLines hbody .nil .nil Iff.rfl

end Fence

namespace Document

lemma startsInitialMarker_sameLines (h : SameLines s t) :
    startsInitialMarker s = startsInitialMarker t := by
  have houtside : Option.Rel SameLines (past? Statement.outside s) (past? Statement.outside t) :=
    SameLines.past? (by decide) (by decide) h
  unfold startsInitialMarker
  generalize past? Statement.outside s = x, past? Statement.outside t = y at houtside ⊢
  cases houtside with
  | none => rfl
  | some hrest =>
    exact isSome_eq_of_rel (SameLines.past? (by decide) (by decide) hrest.trimStart)

lemma looksLikeStateDiagram_sameLines (h : SameLines s t) :
    looksLikeStateDiagram s = looksLikeStateDiagram t := by
  have hkeyword : occurs keyword s = occurs keyword t :=
    h.occurs_eq (by decide) (by decide) (by decide)
  have hmarker (s t : Text) (h : SameLines s t) : Option.Rel (fun _ _ => True)
      (if startsInitialMarker s then some () else none)
      (if startsInitialMarker t then some () else none) := by
    rw [startsInitialMarker_sameLines h]
    split
    · exact .some trivial
    · exact .none
  unfold looksLikeStateDiagram
  rw [hkeyword, isSome_eq_of_rel (h.leftmost (hmarker _ _) fun _ => rfl)]

end Document

/-- Such diagrams describe the same machine. -/
lemma Machine.ofDiagram_sameLines (h : SameLines s t) : ofDiagram s = ofDiagram t := by
  have hread {p q : Text} (hpq : p = q ∨ p = q ++ ['\r']) (d : Draft) :
      d.readLine p = d.readLine q := by
    rcases hpq with rfl | rfl
    · rfl
    · have hblank : AllIn isBlank ['\r'] := allIn_singleton.mpr rfl
      unfold Draft.readLine Statement.ofLine?
      rw [trim_append hblank]
  have hlines := h.lines
  unfold ofDiagram Draft.ofLines
  congr 1
  generalize ({} : Draft) = d
  generalize lines s = ps, lines t = qs at hlines ⊢
  induction hlines generalizing d with
  | nil => rfl
  | cons hpq _ ih => rw [List.foldl_cons, List.foldl_cons, hread hpq, ih]

namespace Document

/-- Such documents describe the same machine, or neither describes one. -/
lemma describes_sameLines (h : SameLines s t) (m : Machine) :
    describes s = .machine m ↔ describes t = .machine m := by
  have hdiagram := Fence.diagram?_sameLines h
  unfold describes
  generalize Fence.diagram? s = x, Fence.diagram? t = y at hdiagram ⊢
  cases hdiagram with
  | none => rfl
  | some hd =>
    simp only [looksLikeStateDiagram_sameLines hd, Machine.ofDiagram_sameLines hd]
    split
    · rfl
    · exact ⟨nofun, nofun⟩

lemma workflow_eq_default (h : ∀ m, describes s ≠ .machine m) : workflow s = .default := by
  rw [workflow]
  cases hs : describes s with
  | machine m => exact absurd hs (h m)
  | nothing => rfl
  | otherDiagram length => rfl

/-- Such documents have the same workflow. -/
lemma workflow_sameLines (h : SameLines s t) : workflow s = workflow t := by
  by_cases hmachine : ∃ m, describes s = .machine m
  · obtain ⟨m, hs⟩ := hmachine
    rw [workflow, workflow, hs, (describes_sameLines h m).mp hs]
  · rw [not_exists] at hmachine
    rw [workflow_eq_default hmachine,
      workflow_eq_default fun m => (describes_sameLines h m).not.mp (hmachine m)]

end Document

end Statechart
