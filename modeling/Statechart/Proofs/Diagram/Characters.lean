import Statechart.Document
import Statechart.Proofs.Diagram.Closure
import Statechart.Proofs.Diagram.Meaning
import Statechart.Proofs.Fence.Block

/-!
# The characters of a machine

Names are words of ASCII, and so is the event of a transition without a label.  All other events
stand in the diagram.  So a machine has no character that is neither in its diagram nor in ASCII
(`Machine.drawnFrom_ofDiagram`), and the same holds of a document and its workflow.
-/

namespace Statechart

open Text

/-- Every character of a text is in the source or in ASCII. -/
def Text.DrawnFrom (source s : Text) : Prop := ∀ c ∈ s, c ∈ source ∨ c.toNat < 128

/-- The events of a state and their targets. -/
def State.texts (state : State) : List Text := state.on.entries.flatMap fun e => [e.1, e.2]

/-- The texts that a machine is made of. -/
def Machine.texts (m : Machine) : List Text :=
  m.initial :: m.states.entries.flatMap fun e => e.1 :: e.2.texts

variable {d s name event : Text} {state : State}

lemma Text.drawnFrom_of_allIn_isWordChar (h : AllIn isWordChar s) : DrawnFrom d s := by
  intro c hc
  have hrange := toNat_le_of_isWordChar (h c hc)
  exact .inr (by omega)

namespace Statement

lemma EventOf.drawnFrom {target tail : Text} (h : EventOf target tail event)
    (htarget : IsWord target) : DrawnFrom tail event := by
  cases h with
  | labelled htail hblanks hlabel =>
    intro c hc
    rw [htail]
    exact .inl (by simp [mem_of_mem_trim hc])
  | unlabelled hnone => exact drawnFrom_of_allIn_isWordChar (allIn_unlabelledEvent htarget)

lemma drawnFrom_of_mem_ofDiagram {source target : Text}
    (h : .transition source target event ∈ ofDiagram d) : DrawnFrom d event := by
  obtain ⟨line, hline, hsays⟩ := List.mem_filterMap.mp h
  rw [← ofLine?_eq_byFirstRule?] at hsays
  obtain ⟨tail, htarget, hevent, htail⟩ := (ofLine?_eq_some_iff.mp hsays).exists_tail
  intro c hc
  rcases hevent.drawnFrom htarget c hc with hmem | hascii
  · exact .inl (mem_of_mem_pieces hline (htail c hmem))
  · exact .inr hascii

end Statement

namespace Machine

lemma isWord_of_mem_names (h : name ∈ (ofDiagram d).states.names) : IsWord name := by
  rw [(isMeaningOf_ofDiagram d).names, List.mem_eraseDups] at h
  obtain ⟨st, hst, hname⟩ := List.mem_flatMap.mp h
  exact Statement.isWord_of_mem_ofDiagram hst hname

lemma drawnFrom_of_mem_events (hstate : (ofDiagram d).states.get? name = some state)
    (h : event ∈ state.on.names) : DrawnFrom d event := by
  obtain ⟨target, hst⟩ := (isMeaningOf_ofDiagram d).exists_transition hstate h
  exact Statement.drawnFrom_of_mem_ofDiagram hst

/-- A machine is drawn from its diagram. -/
theorem drawnFrom_ofDiagram (d : Text) : ∀ s ∈ (ofDiagram d).texts, DrawnFrom d s := by
  have hclosed := closed_ofDiagram d
  have hnames : ∀ name ∈ (ofDiagram d).states.names, DrawnFrom d name := fun name hname =>
    drawnFrom_of_allIn_isWordChar (isWord_of_mem_names hname).2
  intro s hs
  rcases List.mem_cons.mp hs with rfl | hs
  · by_cases hnil : (ofDiagram d).states.names = []
    · rw [hclosed.initial_idle hnil]
      exact drawnFrom_of_allIn_isWordChar (by decide)
    · exact hnames _ (hclosed.initial_mem hnil)
  · obtain ⟨⟨name, state⟩, hentry, hs⟩ := List.mem_flatMap.mp hs
    have hstate := Catalog.get?_eq_some_iff.mpr hentry
    rcases List.mem_cons.mp hs with rfl | hs
    · exact hnames _ (Catalog.mem_names_of_get?_eq_some hstate)
    · obtain ⟨⟨event, target⟩, hevent, hs⟩ := List.mem_flatMap.mp hs
      have htarget := Catalog.get?_eq_some_iff.mpr hevent
      rcases List.mem_pair.mp hs with rfl | rfl
      · exact drawnFrom_of_mem_events hstate (Catalog.mem_names_of_get?_eq_some htarget)
      · exact hnames _ (hclosed.target_mem name state hstate _ _ htarget)

end Machine

/-- The workflow of a document is drawn from the document. -/
theorem Document.drawnFrom_workflow (markdown : Text) :
    ∀ s ∈ (workflow markdown).toMachine.texts, DrawnFrom markdown s := by
  have hdefault : ∀ s ∈ Workflow.default.toMachine.texts, DrawnFrom markdown s := by
    have hascii : ∀ s ∈ Workflow.default.toMachine.texts, s.all (·.toNat < 128) = true := by decide
    intro s hs c hc
    exact .inr (of_decide_eq_true (List.all_eq_true.mp (hascii s hs) c hc))
  unfold workflow describes
  split
  · exact hdefault
  · next diagram hdiagram =>
    split
    · obtain ⟨pre, ⟨⟨lead, gap, post, hsplit, -, -⟩, -, -, -⟩, -⟩ :=
        Fence.diagram?_eq_some_iff_isDiagramOf.mp hdiagram
      intro s hs c hc
      rcases Machine.drawnFrom_ofDiagram diagram s hs c hc with hmem | hascii
      · exact .inl (by simp [hsplit, hmem])
      · exact .inr hascii
    · exact hdefault

end Statechart
