import Statechart.Proofs.Catalog.Laws
import Statechart.Proofs.CommandLine.Contract

/-!
# Compositions and their regions

A composition shows its regions in order, each with the workflow of what is read at its path
(`run_compose`).  That is the workflow which is printed for the path alone, with one exception: the
standard input can be read once only.  A second region on the standard input finds nothing there and
has the default workflow, whatever the diagram is (`run_compose_input_twice`).
-/

namespace Statechart

open Text

namespace CommandLine

variable {h : Host} {settings : Settings} {arguments texts : List Text} {rs : List Region}
  {indentation : Option Indentation} {layout : Json.Layout}

/-- A composition shows its regions in the order in which they are given.  The workflow of a region
is the one that is printed for its path alone if the path is not the standard input, or if no region
before it is on the standard input, or if the standard input describes the default workflow anyway;
and only then. -/
theorem run_compose (hc : Command.ofArguments arguments = .ok (.compose texts indentation))
    (hsettings : h.settings = .ok (.ok settings))
    (hlayout : (indentation.getD (.spaces settings.indent)).layout = .ok layout)
    (hregions : List.Forall₂ (fun s r => Region.IsWrittenAs r s) texts rs)
    (hdistinct : (rs.map Region.name).Nodup) (hread : ∀ r ∈ rs, h.CanRead r.path) :
    ∃ composition : Composition,
      (run h arguments).map Outcome.shown =
        .ok (0, composition.toJson.write layout ++ ['\n']) ∧
      composition.regions.names = rs.map Region.name ∧
      ∀ before r after, rs = before ++ r :: after → ∃ markdown,
        h.document r.path = .ok markdown ∧
        (runCommand h (.compile r.path indentation)).map Outcome.shown =
          .ok (0, (Document.workflow markdown).toJson.write layout ++ ['\n']) ∧
        (composition.regions.get? r.name = some (Document.workflow markdown) ↔
          r.path ≠ Command.inputPath ∨ Command.inputPath ∉ before.map Region.path ∨
            Document.workflow markdown = .default) := by
  obtain ⟨ws, hws⟩ := Host.exists_workflows_iff.mpr hread
  have hnames : ws.map Prod.fst = rs.map Region.name := Host.map_fst_of_workflowsAfter hws
  have hentries : (Catalog.ofList ws).entries = ws := Catalog.entries_ofList (hnames ▸ hdistinct)
  refine ⟨{ regions := .ofList ws }, ?_, ?_, fun before r after hrs => ?_⟩
  · rw [run, hc]
    exact shown_of_prints hsettings (.compose hregions hws hlayout)
  · rw [Catalog.names, hentries, hnames]
  · subst hrs
    obtain ⟨markdown, hmarkdown⟩ := hread r (List.mem_append_right _ List.mem_cons_self)
    refine ⟨markdown, hmarkdown, shown_compile hsettings hlayout hmarkdown, ?_⟩
    -- what the region has is the workflow of what is left for it
    obtain ⟨found, hfound, hmem⟩ := Host.mem_of_workflowsAfter hws
    have hget : (Catalog.ofList ws).get? r.name = some (Document.workflow found) :=
      Catalog.get?_eq_some_iff.mpr (hentries.symm ▸ hmem)
    rw [List.nil_append] at hfound
    simp only [hget, Option.some.injEq]
    by_cases htwice : r.path = Command.inputPath ∧ Command.inputPath ∈ before.map Region.path
    · rw [htwice.1, Host.documentAfter_input htwice.2] at hfound
      obtain rfl := Except.ok.inj hfound
      have hdefault : Document.workflow [] = .default := rfl
      simp only [hdefault, htwice.1, htwice.2, ne_eq, not_true, false_or]
      exact eq_comm
    · rw [not_and_or] at htwice
      rw [Host.documentAfter_eq_document htwice, hmarkdown] at hfound
      obtain rfl := Except.ok.inj hfound
      tauto

/-- A host with a diagram in a file and on its standard input. -/
def twoDiagramHost : Host where
  file path :=
    if path = .ofText "m.md".toList then .ok (Utf8.encode "```mermaid\n[*] --> B\n```".toList)
    else .error .missing
  input := Utf8.encode "```mermaid\n[*] --> A\n```".toList

/-- The regions of a file and of the standard input have the workflows that are printed for the two
paths. -/
theorem run_compose_file_and_input :
    ∃ composition : Composition,
      (run twoDiagramHost ["compose".toList, "a=m.md".toList, "b=-".toList]).map Outcome.shown =
        .ok (0, composition.toJson.write (.ofIndent (some 2)) ++ ['\n']) ∧
      composition.regions.names = ["a".toList, "b".toList] ∧
      ∃ markdown, twoDiagramHost.document "-".toList = .ok markdown ∧
        composition.regions.get? "b".toList = some (Document.workflow markdown) := by
  have hregions : List.Forall₂ (fun s r => Region.IsWrittenAs r s)
      ["a=m.md".toList, "b=-".toList] [⟨"a".toList, "m.md".toList⟩, ⟨"b".toList, "-".toList⟩] :=
    regionsOf_eq_ok_iff.mp (by decide +kernel)
  have hread : ∀ r ∈ ([⟨"a".toList, "m.md".toList⟩, ⟨"b".toList, "-".toList⟩] : List Region),
      twoDiagramHost.CanRead r.path := by
    refine List.forall_mem_cons.mpr ⟨?_, List.forall_mem_cons.mpr ⟨?_, List.forall_mem_nil _⟩⟩
    · exact ⟨"```mermaid\n[*] --> B\n```".toList, by decide +kernel⟩
    · exact ⟨"```mermaid\n[*] --> A\n```".toList, by decide +kernel⟩
  have hc : Command.ofArguments ["compose".toList, "a=m.md".toList, "b=-".toList] =
      .ok (.compose ["a=m.md".toList, "b=-".toList] none) := by decide +kernel
  have hsettings : twoDiagramHost.settings = .ok (.ok {}) := by decide +kernel
  obtain ⟨composition, hshown, hnames, hregion⟩ :=
    run_compose hc hsettings rfl hregions (by decide) hread
  obtain ⟨markdown, hmarkdown, -, hget⟩ := hregion [⟨"a".toList, "m.md".toList⟩] _ [] rfl
  exact ⟨composition, hshown, hnames, markdown, hmarkdown, hget.mpr (.inr (.inl (by decide)))⟩

/-- The second region on the standard input has the default workflow, which is not the one that is
printed for the standard input alone. -/
theorem run_compose_input_twice :
    ∃ w : Workflow, w ≠ .default ∧
      (run twoDiagramHost ["compile".toList, "-".toList]).map Outcome.shown =
        .ok (0, w.toJson.write (.ofIndent (some 2)) ++ ['\n']) ∧
      (run twoDiagramHost ["compose".toList, "a=-".toList, "b=-".toList]).map Outcome.shown =
        .ok (0, ({ regions := .ofList [("a".toList, w), ("b".toList, .default)] } :
          Composition).toJson.write (.ofIndent (some 2)) ++ ['\n']) := by
  refine ⟨Document.workflow "```mermaid\n[*] --> A\n```".toList, ?_, ?_, ?_⟩
  · decide +kernel
  · decide +kernel
  · decide +kernel

end CommandLine

end Statechart
