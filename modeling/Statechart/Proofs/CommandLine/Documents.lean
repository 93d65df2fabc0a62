import Mathlib.Data.List.Forall2
import Statechart.CommandLine.Run
import Statechart.Proofs.Text.Scan

/-!
# The documents of a command

A document stands in a file or on the standard input.  `Host.document` is what stands there.  The
standard input can be read once only, and whoever comes later finds it empty, so what is read at a
path depends on the paths before it: `Host.documentAfter`.

`readRegions` hands on what is left of the standard input from one region to the next.
`Host.workflowsAfter` says what comes out in terms of the paths alone (`readRegions_eq`).  A second
region on the standard input never fails, so the regions can be read if each of their documents
can be (`exists_workflowsAfter_iff`).
-/

namespace Statechart

open Text

/-! ## Regions -/

namespace Region

/-- A text writes a region: the name and the path around the first `=`, without the blanks at their
ends, and neither is blank. -/
def IsWrittenAs (r : Region) (s : Text) : Prop :=
  ∃ name path, s = name ++ '=' :: path ∧ '=' ∉ name ∧ ¬ AllIn isBlank name ∧
    ¬ AllIn isBlank path ∧ r = ⟨trim name, trim path⟩

lemma ofText?_eq_some_iff {s : Text} {r : Region} : ofText? s = some r ↔ r.IsWrittenAs s := by
  unfold ofText? IsWrittenAs
  constructor
  · intro h
    split at h
    · exact absurd h (by simp)
    · next name path hcut =>
      obtain ⟨hs, hname⟩ := cut?_eq_some_iff.mp hcut
      simp only [Option.ite_none_left_eq_some, not_or, trim_eq_nil_iff, Option.some.injEq] at h
      obtain ⟨⟨hblank, hblank'⟩, hr⟩ := h
      exact ⟨name, path, hs, hname, hblank, hblank', hr.symm⟩
  · rintro ⟨name, path, hs, hname, hblank, hblank', rfl⟩
    rw [cut?_eq_some_iff.mpr ⟨hs, hname⟩]
    simp [trim_eq_nil_iff, hblank, hblank']

end Region

namespace CommandLine

variable {texts : List Text} {rs : List Region} {s : Text}

/-- The regions are those that the texts write, one each. -/
lemma regionsOf_eq_ok_iff :
    regionsOf texts = .ok rs ↔ List.Forall₂ (fun s r => Region.IsWrittenAs r s) texts rs := by
  induction texts generalizing rs with
  | nil => simp [regionsOf, eq_comm]
  | cons s texts ih =>
    rw [regionsOf]
    cases hs : Region.ofText? s with
    | none =>
      constructor
      · intro h
        exact absurd h (by simp)
      · rintro (_ | ⟨hwritten, -⟩)
        rw [Region.ofText?_eq_some_iff.mpr hwritten] at hs
        exact absurd hs (by simp)
    | some r =>
      have hmap : (regionsOf texts).map (r :: ·) = .ok rs ↔
          ∃ rest, regionsOf texts = .ok rest ∧ r :: rest = rs := by
        cases regionsOf texts <;> simp [Except.map]
      simp only [hmap, ih]
      constructor
      · rintro ⟨rest, hrest, rfl⟩
        exact .cons (Region.ofText?_eq_some_iff.mp hs) hrest
      · rintro (_ | ⟨hwritten, hrest⟩)
        rw [Region.ofText?_eq_some_iff.mpr hwritten, Option.some.injEq] at hs
        exact ⟨_, hrest, by rw [hs]⟩

/-- What is reported is a text that writes no region. -/
lemma mem_of_regionsOf_eq_error (h : regionsOf texts = .error s) :
    s ∈ texts ∧ ∀ r, ¬ Region.IsWrittenAs r s := by
  induction texts with
  | nil => exact absurd h (by simp [regionsOf])
  | cons t texts ih =>
    rw [regionsOf] at h
    cases ht : Region.ofText? t with
    | none =>
      simp only [ht, Except.error.injEq] at h
      obtain rfl := h
      refine ⟨List.mem_cons_self, fun r hr => ?_⟩
      rw [Region.ofText?_eq_some_iff.mpr hr] at ht
      exact absurd ht (by simp)
    | some r =>
      have hrest : regionsOf texts = .error s := by
        cases hregions : regionsOf texts <;> simp_all [Except.map]
      exact ⟨List.mem_cons_of_mem t (ih hrest).1, (ih hrest).2⟩

end CommandLine

namespace Host

variable {h : Host} {before : List Text} {rs : List Region} {path : Text}

/-! ## Documents -/

/-- The document at a path: what the standard input holds, or a file. -/
def document (h : Host) (path : Text) : Except ReadFault Text :=
  if path = Command.inputPath then Document.ofBytes h.input else h.read path

/-- There is a document at a path, and it can be read. -/
def CanRead (h : Host) (path : Text) : Prop := ∃ markdown, h.document path = .ok markdown

/-- What is read at a path when the documents at other paths have been read before. -/
def documentAfter (h : Host) (before : List Text) (path : Text) : Except ReadFault Text :=
  if path = Command.inputPath ∧ before.contains Command.inputPath then .ok [] else h.document path

/-- What is left of the standard input when the documents at these paths have been read. -/
def inputAfter (h : Host) (before : List Text) : List UInt8 :=
  if before.contains Command.inputPath then [] else h.input

/-- The workflows of regions, each with the name of its region, when the documents at other paths
have been read before. -/
def workflowsAfter (h : Host) (before : List Text) :
    List Region → Except ReadFault (List (Text × Workflow))
  | [] => .ok []
  | r :: rs =>
    match h.documentAfter before r.path with
    | .error fault => .error fault
    | .ok markdown =>
      (h.workflowsAfter (before ++ [r.path]) rs).map ((r.name, Document.workflow markdown) :: ·)

/-- The workflows of regions. -/
def workflows (h : Host) (rs : List Region) : Except ReadFault (List (Text × Workflow)) :=
  h.workflowsAfter [] rs

/-- The standard input is empty for whoever comes later. -/
lemma documentAfter_input (hmem : Command.inputPath ∈ before) :
    h.documentAfter before Command.inputPath = .ok [] :=
  if_pos ⟨rfl, List.contains_iff_mem.mpr hmem⟩

/-- Every other document is there for everyone. -/
lemma documentAfter_eq_document (hfirst : path ≠ Command.inputPath ∨ Command.inputPath ∉ before) :
    h.documentAfter before path = h.document path := by
  refine if_neg fun htwice => ?_
  rcases hfirst with hpath | hmem
  · exact hpath htwice.1
  · exact hmem (List.contains_iff_mem.mp htwice.2)

lemma readDocument_inputAfter (h : Host) (before : List Text) (path : Text) :
    CommandLine.readDocument h (h.inputAfter before) path =
      (h.documentAfter before path, h.inputAfter (before ++ [path])) := by
  unfold CommandLine.readDocument documentAfter inputAfter document
  simp only [List.contains_iff_mem]
  by_cases hpath : path = Command.inputPath
  · subst hpath
    by_cases hmem : Command.inputPath ∈ before
    · simp only [hmem, if_true, and_self, List.mem_append, true_or]
      rfl
    · simp [hmem]
  · simp [hpath, Ne.symm hpath]

lemma readDocument_input (h : Host) (path : Text) :
    (CommandLine.readDocument h h.input path).1 = h.document path := by
  have hinput : h.inputAfter [] = h.input := rfl
  have hread := h.readDocument_inputAfter [] path
  rw [hinput] at hread
  rw [hread, documentAfter_eq_document (.inr List.not_mem_nil)]

/-- The regions are read in order, and their workflows are entered in a catalog. -/
lemma readRegions_eq (h : Host) (before : List Text) (found : Catalog Workflow)
    (rs : List Region) :
    (CommandLine.readRegions h (h.inputAfter before) found rs).2 =
      (h.workflowsAfter before rs).map fun ws => ws.foldl (fun c e => c.insert e.1 e.2) found := by
  induction rs generalizing before found with
  | nil => rfl
  | cons r rs ih =>
    rw [CommandLine.readRegions, workflowsAfter, readDocument_inputAfter]
    cases h.documentAfter before r.path with
    | error fault => rfl
    | ok markdown =>
      simp only [ih]
      cases h.workflowsAfter (before ++ [r.path]) rs <;> rfl

lemma workflowsAfter_cons_eq_ok_iff {r : Region} {ws : List (Text × Workflow)} :
    h.workflowsAfter before (r :: rs) = .ok ws ↔
      ∃ markdown rest, h.documentAfter before r.path = .ok markdown ∧
        h.workflowsAfter (before ++ [r.path]) rs = .ok rest ∧
        ws = (r.name, Document.workflow markdown) :: rest := by
  rw [workflowsAfter]
  cases h.documentAfter before r.path with
  | error fault => simp
  | ok markdown =>
    cases h.workflowsAfter (before ++ [r.path]) rs <;> simp [Except.map, eq_comm]

/-- Regions can be read if each of their documents can be. -/
lemma exists_workflowsAfter_iff
    (hbefore : Command.inputPath ∈ before → h.CanRead Command.inputPath) :
    (∃ ws, h.workflowsAfter before rs = .ok ws) ↔ ∀ r ∈ rs, h.CanRead r.path := by
  induction rs generalizing before with
  | nil => simp [workflowsAfter]
  | cons r rs ih =>
    have hread : (∃ markdown, h.documentAfter before r.path = .ok markdown) ↔
        h.CanRead r.path := by
      by_cases htwice : r.path = Command.inputPath ∧ Command.inputPath ∈ before
      · rw [htwice.1, documentAfter_input htwice.2]
        simp [hbefore htwice.2]
      · rw [documentAfter_eq_document (not_and_or.mp htwice)]
        rfl
    have hrest (hr : h.CanRead r.path) :
        Command.inputPath ∈ before ++ [r.path] → h.CanRead Command.inputPath := by
      intro hmem
      rcases List.mem_append.mp hmem with hmem | hmem
      · exact hbefore hmem
      · rw [List.mem_singleton.mp hmem]
        exact hr
    simp only [workflowsAfter_cons_eq_ok_iff, List.forall_mem_cons]
    constructor
    · rintro ⟨ws, markdown, rest, hmarkdown, hws, -⟩
      have hr := hread.mp ⟨markdown, hmarkdown⟩
      exact ⟨hr, (ih (hrest hr)).mp ⟨rest, hws⟩⟩
    · rintro ⟨hr, hrs⟩
      obtain ⟨markdown, hmarkdown⟩ := hread.mpr hr
      obtain ⟨rest, hws⟩ := (ih (hrest hr)).mpr hrs
      exact ⟨_, markdown, rest, hmarkdown, hws, rfl⟩

lemma exists_workflows_iff : (∃ ws, h.workflows rs = .ok ws) ↔ ∀ r ∈ rs, h.CanRead r.path :=
  exists_workflowsAfter_iff fun hmem => absurd hmem List.not_mem_nil

lemma map_fst_of_workflowsAfter {ws : List (Text × Workflow)}
    (hws : h.workflowsAfter before rs = .ok ws) : ws.map Prod.fst = rs.map Region.name := by
  induction rs generalizing before ws with
  | nil =>
    obtain rfl := Except.ok.inj hws
    rfl
  | cons r rs ih =>
    obtain ⟨markdown, rest, -, hrest, rfl⟩ := workflowsAfter_cons_eq_ok_iff.mp hws
    rw [List.map_cons, List.map_cons, ih hrest]

/-- A region has the workflow of what is read at its path behind the regions before it. -/
lemma mem_of_workflowsAfter {front back : List Region} {r : Region} {ws : List (Text × Workflow)}
    (hws : h.workflowsAfter before (front ++ r :: back) = .ok ws) :
    ∃ markdown, h.documentAfter (before ++ front.map Region.path) r.path = .ok markdown ∧
      (r.name, Document.workflow markdown) ∈ ws := by
  induction front generalizing before ws with
  | nil =>
    obtain ⟨markdown, rest, hmarkdown, -, rfl⟩ := workflowsAfter_cons_eq_ok_iff.mp hws
    exact ⟨markdown, by simpa using hmarkdown, List.mem_cons_self⟩
  | cons q front ih =>
    obtain ⟨-, rest, -, hrest, rfl⟩ := workflowsAfter_cons_eq_ok_iff.mp hws
    obtain ⟨markdown, hmarkdown, hmem⟩ := ih hrest
    exact ⟨markdown, by simpa using hmarkdown, List.mem_cons_of_mem _ hmem⟩

/-- What is read depends on the documents only. -/
lemma workflowsAfter_congr {h' : Host} (heq : ∀ r ∈ rs, h'.document r.path = h.document r.path) :
    h'.workflowsAfter before rs = h.workflowsAfter before rs := by
  induction rs generalizing before with
  | nil => rfl
  | cons r rs ih =>
    obtain ⟨hr, hrs⟩ := List.forall_mem_cons.mp heq
    have hread : h'.documentAfter before r.path = h.documentAfter before r.path := by
      unfold documentAfter
      rw [hr]
    rw [workflowsAfter, workflowsAfter, hread, ih hrs]

end Host

end Statechart
