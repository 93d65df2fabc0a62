import Statechart.CommandLine.Grammar
import Statechart.Proofs.CommandLine.Outcomes
import Statechart.Proofs.Settings.LogLevel

/-!
# What a run shows

A run shows its exit code and what it prints on the standard output.  The two come from the
settings and from the effect of the command alone (`shown_runCommand`).  `Contract` says what they
are: which of the three exit codes stands for what, and that a run prints what it has been asked
for or nothing at all.

Every run that ends in an exit code keeps the contract, and whoever names another level sees the
same (`run_keeps_contract`).  A run does not end in an exit code if the dotenv file cannot be
read; its settings are not invalid then, they are not there at all (`run_unreadable_settings`).
-/

namespace Statechart

open Text

namespace Host

variable {h h' : Host}

lemma SameButLogLevel.document_eq (hsame : SameButLogLevel h h') (path : Text) :
    h'.document path = h.document path := by
  unfold document read
  rw [hsame.file, hsame.input]

lemma settings_eq_error_iff {fault : ReadFault} :
    h.settings = .error fault ↔ h.dotenvText = .error fault := by
  unfold settings dotenvLines
  cases h.dotenvText <;> simp [Except.map]

end Host

namespace CommandLine

/-- The exit code and what is printed on the standard output. -/
def Outcome.shown (o : Outcome) : Nat × Text := (o.exit, o.output)

/-- What a run shows that has these settings, or that has none to use. -/
def shownWith (h : Host) (c : Command) : Except (List Settings.Fault) Settings → Nat × Text
  | .error _ => (2, [])
  | .ok settings => ((effect h settings c).exit, (effect h settings c).output)

/-- What a run comes to.  `given` is what its host gives as settings. -/
structure Contract (h : Host) (given : Except (List Settings.Fault) Settings) (c : Command)
    (o : Outcome) : Prop where
  /-- The exit code two is for settings and for arguments that cannot be used. -/
  exit_two : o.exit = 2 ↔ (∃ faults, given = .error faults) ∨ c.IsMisused
  /-- The exit code one is for everything else that goes wrong. -/
  exit_one : o.exit = 1 ↔ ∃ settings, given = .ok settings ∧ ¬ c.IsMisused ∧ c.Fails h settings
  /-- The exit code zero is for success. -/
  exit_zero : o.exit = 0 ↔
    ∃ settings, given = .ok settings ∧ ¬ c.IsMisused ∧ ¬ c.Fails h settings
  /-- Nothing is printed unless all goes well. -/
  silent : o.exit ≠ 0 → o.output = []
  /-- If all goes well, what is asked for is printed, and nothing else. -/
  prints : o.exit = 0 → ∃ settings, given = .ok settings ∧ c.Prints h settings o.output

variable {h h' : Host} {given : Except (List Settings.Fault) Settings} {c : Command}
  {o : Outcome} {arguments : List Text}

/-! ## The settings and the effect decide -/

/-- What a run shows depends on the settings and the effect of the command. -/
lemma shown_runCommand (h : Host) (c : Command) :
    (runCommand h c).map Outcome.shown = h.settings.map (shownWith h c) := by
  unfold runCommand Host.settings
  cases h.dotenvLines with
  | error fault => rfl
  | ok lines =>
    simp only [bind, Except.bind]
    cases hsettings : Settings.ofSources (h.sources lines) <;>
      simp [Except.map, hsettings, shownWith, Outcome.shown, pure, Except.pure]

/-- What is shown for the settings keeps the contract. -/
lemma contract_of_shown (hshown : o.shown = shownWith h c given) : Contract h given c o := by
  cases given with
  | error faults =>
    obtain ⟨hexit, houtput⟩ : o.exit = 2 ∧ o.output = [] := Prod.mk.inj hshown
    exact ⟨by simp [hexit], by simp [hexit], by simp [hexit], fun _ => houtput, by simp [hexit]⟩
  | ok settings =>
    obtain ⟨hexit, houtput⟩ : o.exit = (effect h settings c).exit ∧
      o.output = (effect h settings c).output := Prod.mk.inj hshown
    cases effect_cases h settings c with
    | misused hcode htext hc =>
      rw [hcode] at hexit
      rw [htext] at houtput
      exact ⟨by simp [hexit, hc], by simp [hexit, hc], by simp [hexit, hc], fun _ => houtput,
        by simp [hexit]⟩
    | fails hcode htext hmisused hc =>
      rw [hcode] at hexit
      rw [htext] at houtput
      exact ⟨by simp [hexit, hmisused], by simp [hexit, hmisused, hc], by simp [hexit, hc],
        fun _ => houtput, by simp [hexit]⟩
    | prints hcode hmisused hc =>
      rw [hcode] at hexit
      have hfails := hc.not_fails
      exact ⟨by simp [hexit, hmisused], by simp [hexit, hfails],
        by simp [hexit, hmisused, hfails], fun hne => absurd hexit hne,
        fun _ => ⟨settings, rfl, houtput ▸ hc⟩⟩

/-- The settings count for what is shown by their indentation, and a host by the documents of the
command. -/
lemma shownWith_congr {given' : Except (List Settings.Fault) Settings}
    (hindent : given'.toOption.map Settings.indent = given.toOption.map Settings.indent)
    (hread : ∀ path ∈ c.paths, h'.document path = h.document path) :
    shownWith h' c given' = shownWith h c given := by
  cases given with
  | error faults =>
    cases given' with
    | error faults' => rfl
    | ok settings' => exact absurd hindent (by simp [Except.toOption])
  | ok settings =>
    cases given' with
    | error faults' => exact absurd hindent (by simp [Except.toOption])
    | ok settings' =>
      have hsettings : settings'.indent = settings.indent := by
        simpa [Except.toOption] using hindent
      have hcases := (effect_cases h settings c).congr hread hsettings
      obtain ⟨hexit, houtput⟩ := hcases.unique (effect_cases h' settings' c)
      exact Prod.ext hexit houtput

/-! ## Runs -/

lemma runCommand_eq_error_iff {fault : ReadFault} :
    runCommand h c = .error fault ↔ h.dotenvText = .error fault := by
  have hshown := shown_runCommand h c
  rw [← Host.settings_eq_error_iff]
  cases hrun : runCommand h c <;> cases hgiven : h.settings <;> simp_all [Except.map]

lemma exists_contract (hgiven : h.settings = .ok given) (c : Command) :
    ∃ o, runCommand h c = .ok o ∧ Contract h given c o := by
  have hshown := shown_runCommand h c
  rw [hgiven] at hshown
  cases hrun : runCommand h c with
  | error fault => exact absurd hshown (by simp [hrun, Except.map])
  | ok o =>
    rw [hrun] at hshown
    exact ⟨o, rfl, contract_of_shown (Except.ok.inj hshown)⟩

/-- What a command prints is shown. -/
lemma shown_of_prints {settings : Settings} {s : Text} (hsettings : h.settings = .ok (.ok settings))
    (hprints : c.Prints h settings s) : (runCommand h c).map Outcome.shown = .ok (0, s) := by
  have hcases : ({ exit := 0, output := s } : Effect).Cases h settings c :=
    .prints rfl hprints.not_isMisused hprints
  obtain ⟨hexit, houtput⟩ := hcases.unique (effect_cases h settings c)
  rw [shown_runCommand, hsettings]
  exact congrArg Except.ok (Prod.ext hexit houtput)

/-- A document alone is shown as its workflow. -/
lemma shown_compile {settings : Settings} {indentation : Option Indentation} {layout : Json.Layout}
    {path markdown : Text} (hsettings : h.settings = .ok (.ok settings))
    (hlayout : (indentation.getD (.spaces settings.indent)).layout = .ok layout)
    (hread : h.document path = .ok markdown) :
    (runCommand h (.compile path indentation)).map Outcome.shown =
      .ok (0, (Document.workflow markdown).toJson.write layout ++ ['\n']) :=
  shown_of_prints hsettings (.compile hread hlayout)

/-- Another level is named, and the same is shown. -/
lemma shown_of_sameButLogLevel (hsame : h.SameButLogLevel h') (c : Command) :
    (runCommand h' c).map Outcome.shown = (runCommand h c).map Outcome.shown := by
  have hread : ∀ path ∈ c.paths, h'.document path = h.document path :=
    fun path _ => hsame.document_eq path
  have hindent := hsame.map_indent_settings
  rw [shown_runCommand, shown_runCommand]
  generalize h'.settings = given', h.settings = given at hindent ⊢
  cases given with
  | error fault => cases given' <;> simp_all [Except.map]
  | ok given =>
    cases given' with
    | error fault => exact absurd hindent (by simp [Except.map])
    | ok given' => exact congrArg Except.ok (shownWith_congr (Except.ok.inj hindent) hread)

/-- The indentation and the documents are the same, and the same is shown. -/
lemma shown_of_indent_eq {settings settings' : Settings}
    (hsettings : h.settings = .ok (.ok settings)) (hsettings' : h'.settings = .ok (.ok settings'))
    (hindent : settings'.indent = settings.indent)
    (hread : ∀ path ∈ c.paths, h'.document path = h.document path) :
    (runCommand h' c).map Outcome.shown = (runCommand h c).map Outcome.shown := by
  rw [shown_runCommand, shown_runCommand, hsettings, hsettings']
  exact congrArg Except.ok (shownWith_congr (by simp [Except.toOption, hindent]) hread)

/-- A run ends in an exit code unless the dotenv file cannot be read.  Then it keeps the contract,
and it shows the same on a host that differs in the name of the level only, and on any host with the
same indentation and the same documents. -/
theorem run_keeps_contract (hc : Command.ofArguments arguments = .ok c) :
    (∀ fault, run h arguments = .error fault ↔ h.dotenvText = .error fault) ∧
    (∀ given, h.settings = .ok given → ∃ o, run h arguments = .ok o ∧ Contract h given c o) ∧
    (∀ h', h.SameButLogLevel h' →
      (run h' arguments).map Outcome.shown = (run h arguments).map Outcome.shown) ∧
    (∀ h' settings settings', h.settings = .ok (.ok settings) →
      h'.settings = .ok (.ok settings') → settings'.indent = settings.indent →
      (∀ path ∈ c.paths, h'.document path = h.document path) →
      (run h' arguments).map Outcome.shown = (run h arguments).map Outcome.shown) := by
  have hrun (h : Host) : run h arguments = runCommand h c := by rw [run, hc]
  simp only [hrun]
  exact ⟨fun fault => runCommand_eq_error_iff, fun given hgiven => exists_contract hgiven c,
    fun h' hsame => shown_of_sameButLogLevel hsame c,
    fun h' settings settings' => shown_of_indent_eq⟩

/-- A host with a diagram on its standard input and the name of a level in its environment. -/
def diagramHost (level : Text) : Host where
  environment := [(Settings.logLevelName, level)]
  input := Utf8.encode "```mermaid\n[*] --> A\n```".toList

/-- The workflow is printed, whichever of two levels is named. -/
theorem run_keeps_contract_compile :
    Command.ofArguments ["compile".toList, "-".toList] = .ok (.compile "-".toList none) ∧
    (∃ o, run (diagramHost "DEBUG".toList) ["compile".toList, "-".toList] = .ok o ∧ o.exit = 0 ∧
      Command.Prints (diagramHost "DEBUG".toList) ⟨"DEBUG".toList, 2⟩ (.compile "-".toList none)
        o.output) ∧
    (run (diagramHost " error".toList) ["compile".toList, "-".toList]).map Outcome.shown =
      (run (diagramHost "DEBUG".toList) ["compile".toList, "-".toList]).map Outcome.shown := by
  have hc : Command.ofArguments ["compile".toList, "-".toList] =
      .ok (.compile "-".toList none) := by decide +kernel
  have hsettings : (diagramHost "DEBUG".toList).settings = .ok (.ok ⟨"DEBUG".toList, 2⟩) := by
    decide +kernel
  have hread : (diagramHost "DEBUG".toList).document "-".toList =
      .ok "```mermaid\n[*] --> A\n```".toList := by decide +kernel
  have hprints : Command.Prints (diagramHost "DEBUG".toList) ⟨"DEBUG".toList, 2⟩
      (.compile "-".toList none) _ := .compile hread rfl
  have hlevels : (diagramHost "DEBUG".toList).SameButLogLevel (diagramHost " error".toList) :=
    ⟨rfl, rfl, .cons ⟨rfl, .inr ⟨by decide, ⟨"DEBUG".toList, by decide +kernel⟩,
      "ERROR".toList, by decide +kernel⟩⟩ .nil⟩
  obtain ⟨-, hcontract, hlevel, -⟩ := run_keeps_contract (h := diagramHost "DEBUG".toList) hc
  refine ⟨hc, ?_, hlevel _ hlevels⟩
  obtain ⟨o, hrun, ho⟩ := hcontract _ hsettings
  have hexit : o.exit = 0 := ho.exit_zero.mpr ⟨_, rfl, id, hprints.not_fails⟩
  obtain ⟨settings, hok, hprinted⟩ := ho.prints hexit
  obtain rfl := Except.ok.inj hok
  exact ⟨o, hrun, hexit, hprinted⟩

/-- A dotenv file that is no UTF-8 leaves the run without an exit code. -/
theorem run_unreadable_settings :
    Command.ofArguments ["compile".toList, "-".toList] = .ok (.compile "-".toList none) ∧
    run { file := fun path => if path = Host.dotenvPath then .ok [0xFF] else .error .missing }
      ["compile".toList, "-".toList] = .error (.encoding ⟨.invalidStart, 0, 0xFF, 0⟩) := by
  constructor
  · decide +kernel
  · decide +kernel

end CommandLine

end Statechart
