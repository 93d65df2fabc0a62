import Mathlib.Data.List.Basic
import Statechart.Proofs.Diagram.Meaning

/-!
# Blanks around a diagram

Blanks before and after a diagram change neither what its lines say nor the machine that it
describes, whatever these blanks are: some of them end a line, and the others make one longer that
is trimmed before it is read.
-/

namespace Statechart

open Text

variable {a b d : Text} {c : Char}

namespace Statement

/-- Lines that are the same once they are trimmed are read by the same rule. -/
lemma byFirstRule?_congr {line line' : Text} (h : trim line = trim line') :
    byFirstRule? line = byFirstRule? line' := by
  unfold byFirstRule?
  rw [h]

/-- The statements of a diagram are those before a line feed and those behind it. -/
lemma ofDiagram_append_line (s t : Text) :
    ofDiagram (s ++ '\n' :: t) = ofDiagram s ++ ofDiagram t := by
  unfold ofDiagram lines
  rw [pieces_append, List.filterMap_append]

/-- A blank at the start of a diagram is an empty line or the indentation of the first line. -/
lemma ofDiagram_cons (hc : isBlank c = true) (s : Text) : ofDiagram (c :: s) = ofDiagram s := by
  by_cases hline : c = '\n'
  · subst hline
    exact ofDiagram_append_line [] s
  · obtain ⟨p, ps, hp⟩ := List.exists_cons_of_ne_nil (pieces_ne_nil '\n' s)
    have htrim : trim (c :: p) = trim p := by
      unfold trim trimStart
      rw [List.dropWhile_cons_of_pos hc]
    unfold ofDiagram lines
    rw [pieces, if_neg hline, hp, List.filterMap_cons, List.filterMap_cons,
      byFirstRule?_congr htrim]

/-- A blank at the end of a diagram is an empty line or stands behind the last line. -/
lemma ofDiagram_concat (hc : isBlank c = true) (s : Text) : ofDiagram (s ++ [c]) = ofDiagram s := by
  by_cases hline : c = '\n'
  · subst hline
    rw [ofDiagram_append_line]
    exact List.append_nil _
  · induction s using separatorInduction '\n' with
    | last s hs =>
      have hsingle : '\n' ∉ s ++ [c] := by simp [hs, Ne.symm hline]
      have htrim : trim (s ++ [c]) = trim s := trim_append (allIn_singleton.mpr hc) s
      unfold ofDiagram lines
      rw [pieces_of_not_mem hsingle, pieces_of_not_mem hs]
      simp only [List.filterMap_cons, byFirstRule?_congr htrim]
    | cut first rest _ ih =>
      -- only the last line changes, and it stands behind the first line feed
      rw [List.append_assoc, List.cons_append, ofDiagram_append_line, ofDiagram_append_line, ih]

/-- Blanks around a diagram hold no statement. -/
lemma ofDiagram_append_append (ha : AllIn isBlank a) (hb : AllIn isBlank b) :
    ofDiagram (a ++ d ++ b) = ofDiagram d := by
  have hfront : ofDiagram (a ++ d) = ofDiagram d := by
    induction a with
    | nil => rfl
    | cons c a ih =>
      obtain ⟨hc, ha⟩ := allIn_cons.mp ha
      rw [List.cons_append, ofDiagram_cons hc, ih ha]
  have hback : ∀ s, ofDiagram (s ++ b) = ofDiagram s := by
    induction b with
    | nil => simp
    | cons c b ih =>
      intro s
      obtain ⟨hc, hb⟩ := allIn_cons.mp hb
      rw [List.append_cons, ih hb, ofDiagram_concat hc]
  rw [hback, hfront]

lemma ofDiagram_trim (d : Text) : ofDiagram (trim d) = ofDiagram d := by
  obtain ⟨a, b, hd, ha, hb, -⟩ := exists_append_trim_append d
  conv_rhs => rw [hd]
  exact (ofDiagram_append_append ha hb).symm

end Statement

/-- The machine of a diagram is that of its trimmed text. -/
theorem Machine.ofDiagram_trim (d : Text) : Machine.ofDiagram (trim d) = Machine.ofDiagram d := by
  have h := isMeaningOf_ofDiagram (trim d)
  rw [Statement.ofDiagram_trim] at h
  exact h.unique (isMeaningOf_ofDiagram d)

end Statechart
