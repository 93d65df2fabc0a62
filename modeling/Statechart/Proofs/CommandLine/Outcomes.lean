import Mathlib.Data.List.Forall2
import Statechart.Proofs.CommandLine.Documents

/-!
# What commands come to

A command ends in one of three ways.  It is misused, which takes no look at any document
(`Command.IsMisused`); or something keeps it from printing (`Command.Fails`); or it prints what it
has been asked for (`Command.Prints`).  `effect_cases` says that one of these is the case and which
exit code belongs to it, and that nothing is printed in the first two; `Effect.Cases.unique` says
that no two of them are.

All this depends on the documents of the command and on the indentation, and on nothing else that
a host or the settings hold (`Effect.Cases.congr`).
-/

namespace Statechart

open Text

namespace Command

/-- A text is given for a region that writes none. -/
def IsMisused : Command → Prop
  | .compose texts _ => ∃ s ∈ texts, ∀ r, ¬ Region.IsWrittenAs r s
  | _ => False

/-- The indentation of what a command prints as JSON: the one that it is given, or else the one of
the settings. -/
def indentation? (settings : Settings) : Command → Option Indentation
  | .compile _ indentation | .compose _ indentation =>
    some (indentation.getD (.spaces settings.indent))
  | .extract _ => none

/-- Something keeps a command from printing: a document cannot be read, or the indentation is out
of range, or there is no diagram. -/
inductive Fails (h : Host) (settings : Settings) : Command → Prop
  | unreadable {c : Command} {path : Text} (hpath : path ∈ c.paths) (hread : ¬ h.CanRead path) :
    Fails h settings c
  | layout {c : Command} {i : Indentation} {f : Failure} (hi : c.indentation? settings = some i)
    (hlayout : i.layout = .error f) : Fails h settings c
  | noDiagram {path markdown : Text} (hread : h.document path = .ok markdown)
    (hdiagram : Fence.diagram? markdown = none) : Fails h settings (.extract path)

/-- A command prints a text: the JSON of a workflow or of a composition in its layout, or a diagram,
and a line feed. -/
inductive Prints (h : Host) (settings : Settings) : Command → Text → Prop
  | compile {path markdown : Text} {indentation : Option Indentation} {layout : Json.Layout}
    (hread : h.document path = .ok markdown)
    (hlayout : (indentation.getD (.spaces settings.indent)).layout = .ok layout) :
    Prints h settings (.compile path indentation)
      ((Document.workflow markdown).toJson.write layout ++ ['\n'])
  | extract {path markdown diagram : Text} (hread : h.document path = .ok markdown)
    (hdiagram : Fence.diagram? markdown = some diagram) :
    Prints h settings (.extract path) (diagram ++ ['\n'])
  | compose {texts : List Text} {rs : List Region} {ws : List (Text × Workflow)}
    {indentation : Option Indentation} {layout : Json.Layout}
    (hregions : List.Forall₂ (fun s r => Region.IsWrittenAs r s) texts rs)
    (hread : h.workflows rs = .ok ws)
    (hlayout : (indentation.getD (.spaces settings.indent)).layout = .ok layout) :
    Prints h settings (.compose texts indentation)
      (({ regions := .ofList ws } : Composition).toJson.write layout ++ ['\n'])

variable {h h' : Host} {settings settings' : Settings} {c : Command} {s s' : Text}

lemma paths_compose {texts : List Text} {rs : List Region} {indentation : Option Indentation}
    (hregions : List.Forall₂ (fun s r => Region.IsWrittenAs r s) texts rs) :
    (Command.compose texts indentation).paths = rs.map Region.path := by
  have hfilter : texts.filterMap Region.ofText? = rs := by
    induction hregions with
    | nil => rfl
    | cons hr _ ih => rw [List.filterMap_cons, Region.ofText?_eq_some_iff.mpr hr, ih]
  rw [paths, hfilter]

lemma not_isMisused_compose {texts : List Text} {rs : List Region}
    {indentation : Option Indentation}
    (hregions : List.Forall₂ (fun s r => Region.IsWrittenAs r s) texts rs) :
    ¬ (Command.compose texts indentation).IsMisused := by
  have hwritten : ∀ s ∈ texts, ∃ r, Region.IsWrittenAs r s := by
    induction hregions with
    | nil => exact List.forall_mem_nil _
    | cons hr _ ih => exact List.forall_mem_cons.mpr ⟨⟨_, hr⟩, ih⟩
  rintro ⟨s, hs, hno⟩
  obtain ⟨r, hr⟩ := hwritten s hs
  exact hno r hr

/-! ## What the outcome depends on -/

lemma indentation?_congr (hindent : settings'.indent = settings.indent) (c : Command) :
    c.indentation? settings' = c.indentation? settings := by
  cases c <;> simp [indentation?, hindent]

/-- A command fails for the documents that it reads and for its indentation. -/
lemma fails_congr (hread : ∀ path ∈ c.paths, h'.document path = h.document path)
    (hindent : settings'.indent = settings.indent) (hfails : c.Fails h settings) :
    c.Fails h' settings' := by
  cases hfails with
  | unreadable hpath hno =>
    refine .unreadable hpath fun hcan => hno ?_
    unfold Host.CanRead at hcan ⊢
    rwa [hread _ hpath] at hcan
  | layout hi hlayout => exact .layout (by rwa [indentation?_congr hindent]) hlayout
  | noDiagram hmarkdown hdiagram =>
    exact .noDiagram (by rwa [hread _ (by simp [paths])]) hdiagram

/-- What a command prints depends on the documents that it reads and on its indentation. -/
lemma prints_congr (hread : ∀ path ∈ c.paths, h'.document path = h.document path)
    (hindent : settings'.indent = settings.indent) (hprints : c.Prints h settings s) :
    c.Prints h' settings' s := by
  cases hprints with
  | compile hmarkdown hlayout =>
    exact .compile (by rwa [hread _ (by simp [paths])]) (by rwa [hindent])
  | extract hmarkdown hdiagram =>
    exact .extract (by rwa [hread _ (by simp [paths])]) hdiagram
  | compose hregions hws hlayout =>
    refine .compose hregions ?_ (by rwa [hindent])
    rw [paths_compose hregions] at hread
    rwa [Host.workflows, Host.workflowsAfter_congr fun r hr =>
      hread r.path (List.mem_map_of_mem hr)]

/-- A command prints one text. -/
lemma Prints.unique (hs : c.Prints h settings s) (hs' : c.Prints h settings s') : s = s' := by
  cases hs with
  | compile hread hlayout =>
    cases hs' with
    | compile hread' hlayout' =>
      obtain rfl := Except.ok.inj (hread.symm.trans hread')
      obtain rfl := Except.ok.inj (hlayout.symm.trans hlayout')
      rfl
  | extract hread hdiagram =>
    cases hs' with
    | extract hread' hdiagram' =>
      obtain rfl := Except.ok.inj (hread.symm.trans hread')
      obtain rfl := Option.some.inj (hdiagram.symm.trans hdiagram')
      rfl
  | compose hregions hread hlayout =>
    cases hs' with
    | compose hregions' hread' hlayout' =>
      obtain rfl := Except.ok.inj ((CommandLine.regionsOf_eq_ok_iff.mpr hregions).symm.trans
        (CommandLine.regionsOf_eq_ok_iff.mpr hregions'))
      obtain rfl := Except.ok.inj (hread.symm.trans hread')
      obtain rfl := Except.ok.inj (hlayout.symm.trans hlayout')
      rfl

/-- A command that prints does not fail. -/
lemma Prints.not_fails (hs : c.Prints h settings s) : ¬ c.Fails h settings := by
  intro hfails
  cases hs with
  | compile hread hlayout =>
    cases hfails with
    | unreadable hpath hno =>
      rw [paths, List.mem_singleton] at hpath
      exact hno (hpath ▸ ⟨_, hread⟩)
    | layout hi hlayout' =>
      obtain rfl := Option.some.inj hi
      exact absurd (hlayout.symm.trans hlayout') (by simp)
  | extract hread hdiagram =>
    cases hfails with
    | unreadable hpath hno =>
      rw [paths, List.mem_singleton] at hpath
      exact hno (hpath ▸ ⟨_, hread⟩)
    | layout hi _ => exact absurd hi (by simp [indentation?])
    | noDiagram hread' hnone =>
      obtain rfl := Except.ok.inj (hread.symm.trans hread')
      exact absurd (hdiagram.symm.trans hnone) (by simp)
  | compose hregions hread hlayout =>
    cases hfails with
    | unreadable hpath hno =>
      rw [paths_compose hregions] at hpath
      obtain ⟨r, hr, rfl⟩ := List.mem_map.mp hpath
      exact hno (Host.exists_workflows_iff.mp ⟨_, hread⟩ r hr)
    | layout hi hlayout' =>
      obtain rfl := Option.some.inj hi
      exact absurd (hlayout.symm.trans hlayout') (by simp)

/-- A command that prints is not misused. -/
lemma Prints.not_isMisused (hs : c.Prints h settings s) : ¬ c.IsMisused := by
  cases hs with
  | compile => exact id
  | extract => exact id
  | compose hregions => exact not_isMisused_compose hregions

end Command

namespace CommandLine

open Command

variable {h : Host} {settings : Settings}

/-- One of the three ways in which a command ends. -/
inductive Effect.Cases (e : Effect) (h : Host) (settings : Settings) (c : Command) : Prop
  | misused (hexit : e.exit = 2) (houtput : e.output = []) (hc : c.IsMisused)
  | fails (hexit : e.exit = 1) (houtput : e.output = []) (hmisused : ¬ c.IsMisused)
    (hc : c.Fails h settings)
  | prints (hexit : e.exit = 0) (hmisused : ¬ c.IsMisused) (hc : c.Prints h settings e.output)

/-- A command ends in the same way on a host with the same documents, if the indentation is the
same. -/
lemma Effect.Cases.congr {e : Effect} {h' : Host} {settings' : Settings} {c : Command}
    (hcases : e.Cases h settings c) (hread : ∀ path ∈ c.paths, h'.document path = h.document path)
    (hindent : settings'.indent = settings.indent) : e.Cases h' settings' c := by
  cases hcases with
  | misused hexit houtput hc => exact .misused hexit houtput hc
  | fails hexit houtput hmisused hc =>
    exact .fails hexit houtput hmisused (fails_congr hread hindent hc)
  | prints hexit hmisused hc => exact .prints hexit hmisused (prints_congr hread hindent hc)

/-- The way in which a command ends settles its exit code and what it prints. -/
lemma Effect.Cases.unique {e e' : Effect} {c : Command} (hcases : e.Cases h settings c)
    (hcases' : e'.Cases h settings c) : e'.exit = e.exit ∧ e'.output = e.output := by
  cases hcases with
  | misused hexit houtput hc =>
    cases hcases' with
    | misused hexit' houtput' _ => exact ⟨hexit'.trans hexit.symm, houtput'.trans houtput.symm⟩
    | fails _ _ hmisused _ => exact absurd hc hmisused
    | prints _ hmisused _ => exact absurd hc hmisused
  | fails hexit houtput hmisused hc =>
    cases hcases' with
    | misused _ _ hc' => exact absurd hc' hmisused
    | fails hexit' houtput' _ _ => exact ⟨hexit'.trans hexit.symm, houtput'.trans houtput.symm⟩
    | prints _ _ hc' => exact absurd hc hc'.not_fails
  | prints hexit hmisused hc =>
    cases hcases' with
    | misused _ _ hc' => exact absurd hc' hmisused
    | fails _ _ _ hc' => exact absurd hc' hc.not_fails
    | prints hexit' _ hc' => exact ⟨hexit'.trans hexit.symm, hc'.unique hc⟩

/-- What can be laid out is printed. -/
lemma printing_cases {c : Command} {entries : List Entry} {i : Indentation} {j : Json}
    (hmisused : ¬ c.IsMisused) (hi : c.indentation? settings = some i)
    (hprints : ∀ layout, i.layout = .ok layout → c.Prints h settings (j.write layout ++ ['\n'])) :
    (printing entries i j).Cases h settings c := by
  unfold printing
  cases hlayout : i.layout with
  | error f => exact .fails rfl rfl hmisused (.layout hi hlayout)
  | ok layout => exact .prints rfl hmisused (hprints layout hlayout)

/-- A command ends in one of three ways. -/
lemma effect_cases (h : Host) (settings : Settings) (c : Command) :
    (effect h settings c).Cases h settings c := by
  cases c with
  | compile path indentation =>
    rw [effect, Host.readDocument_input]
    cases hmarkdown : h.document path with
    | error fault =>
      refine .fails rfl rfl id (.unreadable List.mem_cons_self ?_)
      rintro ⟨markdown, hok⟩
      exact absurd (hmarkdown.symm.trans hok) (by simp)
    | ok markdown => exact printing_cases id rfl fun _ => .compile hmarkdown
  | extract path =>
    rw [effect, Host.readDocument_input]
    cases hmarkdown : h.document path with
    | error fault =>
      refine .fails rfl rfl id (.unreadable List.mem_cons_self ?_)
      rintro ⟨markdown, hok⟩
      exact absurd (hmarkdown.symm.trans hok) (by simp)
    | ok markdown =>
      simp only
      cases hdiagram : Fence.diagram? markdown with
      | none => exact .fails rfl rfl id (.noDiagram hmarkdown hdiagram)
      | some diagram => exact .prints rfl id (.extract hmarkdown hdiagram)
  | compose texts indentation =>
    rw [effect]
    cases hregions : regionsOf texts with
    | error s => exact .misused rfl rfl ⟨s, mem_of_regionsOf_eq_error hregions⟩
    | ok rs =>
      rw [regionsOf_eq_ok_iff] at hregions
      have hmisused : ¬ (Command.compose texts indentation).IsMisused :=
        not_isMisused_compose hregions
      have hfound : (readRegions h h.input ∅ rs).2 = (h.workflows rs).map .ofList :=
        h.readRegions_eq [] ∅ rs
      simp only
      generalize readRegions h h.input ∅ rs = found at hfound ⊢
      obtain ⟨entries, result⟩ := found
      obtain rfl : result = _ := hfound
      cases hws : h.workflows rs with
      | error fault =>
        have hno : ¬ ∀ r ∈ rs, h.CanRead r.path := by
          rw [← Host.exists_workflows_iff, hws]
          simp
        push Not at hno
        obtain ⟨r, hr, hread⟩ := hno
        have hpath : r.path ∈ (Command.compose texts indentation).paths := by
          rw [paths_compose hregions]
          exact List.mem_map_of_mem hr
        exact .fails rfl rfl hmisused (.unreadable hpath hread)
      | ok ws => exact printing_cases hmisused rfl fun _ => .compose hregions hws

end CommandLine

end Statechart
