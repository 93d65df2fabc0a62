import Statechart.Proofs.CommandLine.Contract
import Statechart.Proofs.Document.LineEnds
import Statechart.Proofs.Service.Requests

/-!
# Ways to a workflow

A document comes from a file, from the standard input, or in a request.  The first two ways turn all
line ends into line feeds, and the last one hands the document on as it is.  If each carriage return
of the document stands in front of a line feed, this makes no difference: all ways lead to the same
workflow (`workflow_every_way`).
-/

namespace Statechart

open Text

/-- Where a command finds these bytes: on the standard input, or in the file at the path. -/
inductive Host.Provides (h : Host) (bytes : List UInt8) : Text → Prop
  | input (hinput : h.input = bytes) : Provides h bytes Command.inputPath
  | file {path : Text} (hpath : path ≠ Command.inputPath) (hzero : '\x00' ∉ path)
    (hfile : h.file (.ofText path) = .ok bytes) : Provides h bytes path

namespace Document

variable {h : Host} {bytes : List UInt8} {markdown path : Text}

/-- What is read from a file or from the standard input has line feeds only. -/
lemma ofBytes_eq_joinLineEnds (hlines : ReturnsBeforeFeeds markdown)
    (hbytes : Utf8.decode bytes = .ok markdown) :
    ofBytes bytes = .ok (joinLineEnds markdown) := by
  rw [ofBytes, hbytes, ← unifyLineEnds_eq_joinLineEnds hlines]

lemma workflow_joinLineEnds (markdown : Text) :
    workflow (joinLineEnds markdown) = workflow markdown :=
  (workflow_sameLines (sameLines_joinLineEnds markdown)).symm

lemma read_eq_joinLineEnds (hlines : ReturnsBeforeFeeds markdown)
    (hbytes : Utf8.decode bytes = .ok markdown) (hzero : '\x00' ∉ path)
    (hfile : h.file (.ofText path) = .ok bytes) : h.read path = .ok (joinLineEnds markdown) := by
  rw [Host.read, if_neg hzero]
  simp only [hfile]
  exact ofBytes_eq_joinLineEnds hlines hbytes

lemma document_eq_joinLineEnds (hlines : ReturnsBeforeFeeds markdown)
    (hbytes : Utf8.decode bytes = .ok markdown) (hprovides : h.Provides bytes path) :
    h.document path = .ok (joinLineEnds markdown) := by
  cases hprovides with
  | input hinput =>
    rw [Host.document, if_pos rfl, hinput]
    exact ofBytes_eq_joinLineEnds hlines hbytes
  | file hpath hzero hfile =>
    rw [Host.document, if_neg hpath]
    exact read_eq_joinLineEnds hlines hbytes hzero hfile

/-- The workflow of a document does not depend on its line ends, and neither does whether it has a
state diagram.  So the workflow is the same whether the document is loaded from a file, read by a
command from a file or from the standard input, or posted to the service. -/
theorem workflow_every_way (markdown : Text) :
    workflow (joinLineEnds markdown) = workflow markdown ∧
    (∀ m, describes (joinLineEnds markdown) = .machine m ↔ describes markdown = .machine m) ∧
    (ReturnsBeforeFeeds markdown → ∀ bytes, Utf8.decode bytes = .ok markdown →
      (∀ (h : Host) (path : Text), '\x00' ∉ path → h.file (.ofText path) = .ok bytes →
        (h.read path).map workflow = .ok (workflow markdown)) ∧
      (∀ (h : Host) (path : Text), h.Provides bytes path →
        (h.document path).map workflow = .ok (workflow markdown) ∧
        ∀ (settings : Settings) (indentation : Option Indentation) (layout : Json.Layout),
          h.settings = .ok (.ok settings) →
          (indentation.getD (.spaces settings.indent)).layout = .ok layout →
          (CommandLine.runCommand h (.compile path indentation)).map CommandLine.Outcome.shown =
            .ok (0, (workflow markdown).toJson.write layout ++ ['\n'])) ∧
      ∀ (origins : List Text) (r : Service.Request), r.Posts .workflow markdown →
        (Service.respond origins r).1.Answers (Service.workflowJson (workflow markdown))) := by
  have hworkflow := workflow_joinLineEnds markdown
  refine ⟨hworkflow, fun m => (describes_sameLines (sameLines_joinLineEnds markdown) m).symm, ?_⟩
  intro hlines bytes hbytes
  refine ⟨fun h path hzero hfile => ?_, fun h path hprovides => ?_,
    fun origins r hposts => Service.answers_workflow hposts origins⟩
  · rw [read_eq_joinLineEnds hlines hbytes hzero hfile]
    exact congrArg Except.ok hworkflow
  · have hread := document_eq_joinLineEnds hlines hbytes hprovides
    constructor
    · rw [hread]
      exact congrArg Except.ok hworkflow
    · intro settings indentation layout hsettings hlayout
      rw [← hworkflow]
      exact CommandLine.shown_compile hsettings hlayout hread

/-- A document with both kinds of line ends, one of them inside a mark. -/
def mixedLines : Text := "```mermaid\r\n\n[*]\r\n--> A\nA --> [*]\r\n```\r\n".toList

/-- The document with both kinds of line ends is printed from the standard input and posted. -/
theorem workflow_every_way_mixed :
    (CommandLine.runCommand { input := Utf8.encode mixedLines }
        (.compile Command.inputPath none)).map CommandLine.Outcome.shown =
      .ok (0, (workflow mixedLines).toJson.write (.ofIndent (some 2)) ++ ['\n']) ∧
    (Service.respond [] (.posting .workflow mixedLines)).1.Answers
      (Service.workflowJson (workflow mixedLines)) := by
  have hlines : ReturnsBeforeFeeds mixedLines := by decide +kernel
  have hsettings : ({ input := Utf8.encode mixedLines } : Host).settings = .ok (.ok {}) := by
    decide +kernel
  obtain ⟨-, -, hways⟩ := workflow_every_way mixedLines
  obtain ⟨-, hprinted, hposted⟩ := hways hlines _ (Utf8.decode_encode mixedLines)
  exact ⟨(hprinted _ _ (.input rfl)).2 {} none _ hsettings rfl,
    hposted [] _ (Service.Request.writes_posting .workflow mixedLines).posts⟩

end Document

end Statechart
