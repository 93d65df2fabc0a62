import Statechart.Proofs.CommandLine.Contract

/-!
# Texts that write no region

The texts that a composition is given are read as regions before any document is.
`Region.IsMalformed` says which texts write no region.  If one of them is given, a run ends with the
message about the first of them, and nothing that a document holds can change that.  If none is, the
run loads the regions that the texts write, one after the other (`Effect.Loads`), and does not end
with the exit code for misuse.

In both cases standard error begins with the complaints about lines of the dotenv file that cannot
be read (`Host.complaints`); `run_compose_complains` is a host that has one.
-/

namespace Statechart

open Text

/-! ## Regions -/

namespace Region

variable {s : Text}

/-- A text writes no region: there is no `=` in it, or there are only blanks before the first one,
or only blanks after it. -/
def IsMalformed (s : Text) : Prop :=
  '=' ∉ s ∨ ∃ name path, s = name ++ '=' :: path ∧ '=' ∉ name ∧
    (AllIn isBlank name ∨ AllIn isBlank path)

lemma isMalformed_iff : IsMalformed s ↔ ∀ r, ¬ IsWrittenAs r s := by
  constructor
  · rintro (hno | ⟨name, path, hs, hname, hblank⟩) r ⟨name', path', hs', hname', hfull, hfull', -⟩
    · refine hno ?_
      rw [hs']
      exact List.mem_append_right _ List.mem_cons_self
    · have hcut := (cut?_eq_some_iff.mpr ⟨hs, hname⟩).symm.trans
        (cut?_eq_some_iff.mpr ⟨hs', hname'⟩)
      obtain ⟨rfl, rfl⟩ := Prod.mk.inj (Option.some.inj hcut)
      exact hblank.elim hfull hfull'
  · intro hno
    by_cases hmem : '=' ∈ s
    · obtain ⟨name, path, rfl, hname⟩ := List.eq_append_cons_of_mem hmem
      refine .inr ⟨name, path, rfl, hname, ?_⟩
      by_contra hfull
      rw [not_or] at hfull
      exact hno _ ⟨name, path, rfl, hname, hfull.1, hfull.2, rfl⟩
    · exact .inl hmem

lemma isMalformed_iff_ofText? : IsMalformed s ↔ ofText? s = none := by
  rw [isMalformed_iff, Option.eq_none_iff_forall_ne_some]
  exact forall_congr' fun r => not_congr ofText?_eq_some_iff.symm

instance : DecidablePred IsMalformed := fun _ => decidable_of_iff _ isMalformed_iff_ofText?.symm

end Region

/-! ## Complaints -/

/-- What is said about a line of the dotenv file that cannot be read. -/
def Dotenv.complaint (number : Nat) : Text :=
  "python-dotenv could not parse statement starting at line ".toList ++ Digits.ofNat number

/-- What is said about the dotenv file, line by line. -/
def Host.complaints (h : Host) : List Text :=
  (h.dotenvLines.toOption.elim [] Dotenv.unreadable).map Dotenv.complaint

namespace CommandLine

variable {texts : List Text} {s : Text}

/-- What is reported is the first text that writes no region. -/
lemma regionsOf_eq_error_iff :
    regionsOf texts = .error s ↔ texts.find? (Region.IsMalformed ·) = some s := by
  induction texts with
  | nil => simp [regionsOf]
  | cons t texts ih =>
    rw [regionsOf]
    cases ht : Region.ofText? t with
    | none =>
      have hbad : Region.IsMalformed t := Region.isMalformed_iff_ofText?.mpr ht
      rw [List.find?_cons_of_pos (by simpa using hbad)]
      simp
    | some r =>
      have hgood : ¬ Region.IsMalformed t := by
        rw [Region.isMalformed_iff_ofText?, ht]
        simp
      rw [List.find?_cons_of_neg (by simpa using hgood), ← ih]
      cases regionsOf texts <;> simp [Except.map]

/-- Before logging is configured, what is said about the dotenv file is printed as it is. -/
lemma errorLines_dotenvEntries (h : Host) (lines : List Dotenv.Line) :
    errorLines h {} (dotenvEntries lines) =
      (Dotenv.unreadable lines).map Dotenv.complaint := by
  have hwritten (number : Nat) :
      ({} : Logging).written ((Notice.unreadableSetting number).report h.now) =
        [(.standardError, Dotenv.complaint number)] := rfl
  unfold errorLines dotenvEntries
  simp only [List.flatMap_map, hwritten, List.map_cons, List.map_nil]
  rw [← List.map_eq_flatMap]

/-! ## Runs -/

variable {h h' : Host} {settings : Settings} {c : Command} {indentation : Option Indentation}
  {rs : List Region}

/-- What is printed on standard error by a run with these settings. -/
def errorsWith (h : Host) (settings : Settings) (entries : List Entry) : Text :=
  linesText (h.complaints ++
    errorLines h (({} : Logging).configure settings.logLevel .standardError).1 entries)

/-- With settings that can be used, a run ends as its command does. -/
lemma runCommand_eq (hsettings : h.settings = .ok (.ok settings)) (c : Command) :
    runCommand h c =
      .ok { exit := (effect h settings c).exit
            output := (effect h settings c).output
            errors := errorsWith h settings (effect h settings c).entries } := by
  unfold Host.settings at hsettings
  unfold runCommand errorsWith Host.complaints
  cases hlines : h.dotenvLines with
  | error fault => simp [hlines, Except.map] at hsettings
  | ok lines =>
    have hgiven : Settings.ofSources (h.sources lines) = .ok settings := by
      simpa [hlines, Except.map] using hsettings
    simp only [bind, Except.bind, hgiven, errorLines_dotenvEntries]
    rfl

/-- What an effect comes to that loads regions: their documents are read in order, and then the
workflows are printed side by side, unless one of the documents cannot be read. -/
inductive Effect.Loads (e : Effect) (h : Host) (settings : Settings)
    (indentation : Option Indentation) (rs : List Region) : Prop
  | all {ws : List (Text × Workflow)} {entries : List Entry} (hws : h.workflows rs = .ok ws)
    (he : e = printing entries (indentation.getD (.spaces settings.indent))
      ({ regions := .ofList ws } : Composition).toJson)
  | unreadable {fault : ReadFault} {entries : List Entry} (hfault : h.workflows rs = .error fault)
    (he : e = failing entries (notRead fault))

/-- A composition of texts that write regions loads these. -/
lemma loads_compose (h : Host) (settings : Settings) (indentation : Option Indentation)
    (hregions : regionsOf texts = .ok rs) :
    (effect h settings (.compose texts indentation)).Loads h settings indentation rs := by
  have hfound : (readRegions h h.input ∅ rs).2 = (h.workflows rs).map .ofList :=
    h.readRegions_eq [] ∅ rs
  rw [effect, hregions]
  simp only
  generalize readRegions h h.input ∅ rs = found at hfound ⊢
  obtain ⟨entries, result⟩ := found
  obtain rfl : result = _ := hfound
  cases hws : h.workflows rs with
  | error fault => exact .unreadable hws rfl
  | ok ws => exact .all hws rfl

lemma Effect.Loads.exit_ne_two {e : Effect} (hloads : e.Loads h settings indentation rs) :
    e.exit ≠ 2 := by
  cases hloads with
  | unreadable hfault he => simp [he, failing]
  | all hws he =>
    rw [he, printing]
    split <;> simp [failing]

/-- If some text writes no region, a run prints nothing but the message about the first such text,
behind the complaints about the dotenv file; so it is the same on every host with the same
complaints.  If each text writes a region, the run loads these regions in order. -/
theorem run_compose_malformed {arguments : List Text}
    (hc : Command.ofArguments arguments = .ok (.compose texts indentation)) :
    ((∃ s ∈ texts, Region.IsMalformed s) →
      (∃ s, texts.find? (Region.IsMalformed ·) = some s ∧
        ∀ h settings, h.settings = .ok (.ok settings) →
          run h arguments =
            .ok { exit := 2, output := [],
                  errors := linesText (h.complaints ++ [Region.malformed s]) }) ∧
      ∀ h h' settings settings', h.settings = .ok (.ok settings) →
        h'.settings = .ok (.ok settings') → h'.complaints = h.complaints →
          run h' arguments = run h arguments) ∧
    ((∀ s ∈ texts, ¬ Region.IsMalformed s) →
      ∃ rs, List.Forall₂ (fun s r => Region.IsWrittenAs r s) texts rs ∧
        ∀ h settings, h.settings = .ok (.ok settings) →
          ∃ e : Effect, e.Loads h settings indentation rs ∧ e.exit ≠ 2 ∧
            run h arguments =
              .ok { exit := e.exit, output := e.output,
                    errors := errorsWith h settings e.entries }) := by
  have hrun (h : Host) : run h arguments = runCommand h (.compose texts indentation) := by
    rw [run, hc]
  constructor
  · rintro ⟨t, ht, hbad⟩
    obtain ⟨s, hs⟩ : ∃ s, texts.find? (Region.IsMalformed ·) = some s :=
      Option.isSome_iff_exists.mp (List.find?_isSome.mpr ⟨t, ht, by simpa using hbad⟩)
    have hmessage : ∀ h settings, h.settings = .ok (.ok settings) →
        run h arguments =
          .ok { exit := 2, output := [],
                errors := linesText (h.complaints ++ [Region.malformed s]) } := by
      intro h settings hsettings
      rw [hrun, runCommand_eq hsettings, effect, regionsOf_eq_error_iff.mpr hs]
      rfl
    refine ⟨⟨s, hs, hmessage⟩, fun h h' settings settings' hsettings hsettings' hsame => ?_⟩
    rw [hmessage h settings hsettings, hmessage h' settings' hsettings', hsame]
  · intro hgood
    cases hregions : regionsOf texts with
    | error s =>
      have hs := regionsOf_eq_error_iff.mp hregions
      exact absurd (by simpa using List.find?_some hs) (hgood s (List.mem_of_find?_eq_some hs))
    | ok rs =>
      refine ⟨rs, regionsOf_eq_ok_iff.mp hregions, fun h settings hsettings => ?_⟩
      have hloads := loads_compose h settings indentation hregions
      exact ⟨_, hloads, hloads.exit_ne_two, by rw [hrun, runCommand_eq hsettings]⟩

/-- The first of two texts that write no region is reported, whatever stands on the standard input
that a text before it names; and a region keeps all of its path behind the first `=`. -/
theorem run_compose_malformed_undecodable :
    (run { input := [0xFF] } ["compose".toList, "a=-".toList, "=x".toList, "b".toList] =
        .ok { exit := 2, errors := linesText [Region.malformed "=x".toList] } ∧
      run {} ["compose".toList, "a=-".toList, "=x".toList, "b".toList] =
        run { input := [0xFF] } ["compose".toList, "a=-".toList, "=x".toList, "b".toList]) ∧
    ∃ e : Effect, e.Loads {} {} none [⟨"a".toList, "b=c".toList⟩] ∧ e.exit ≠ 2 ∧
      run {} ["compose".toList, "a= b=c".toList] =
        .ok { exit := e.exit, output := e.output, errors := errorsWith {} {} e.entries } := by
  have hsettings : ({} : Host).settings = .ok (.ok {}) := by decide +kernel
  have hsettings' : ({ input := [0xFF] } : Host).settings = .ok (.ok {}) := by decide +kernel
  constructor
  · have hc : Command.ofArguments ["compose".toList, "a=-".toList, "=x".toList, "b".toList] =
        .ok (.compose ["a=-".toList, "=x".toList, "b".toList] none) := by decide +kernel
    obtain ⟨⟨s, hs, hmessage⟩, hsame⟩ :=
      (run_compose_malformed hc).1 ⟨"=x".toList, by decide, by decide⟩
    obtain rfl : "=x".toList = s := Option.some.inj (Eq.trans (by decide) hs)
    exact ⟨hmessage _ _ hsettings', hsame _ _ _ _ hsettings' hsettings rfl⟩
  · have hc : Command.ofArguments ["compose".toList, "a= b=c".toList] =
        .ok (.compose ["a= b=c".toList] none) := by decide +kernel
    obtain ⟨rs, hrs, hloads⟩ := (run_compose_malformed hc).2 (by decide)
    obtain rfl : [⟨"a".toList, "b=c".toList⟩] = rs :=
      Except.ok.inj (Eq.trans (by decide +kernel) (regionsOf_eq_ok_iff.mpr hrs))
    exact hloads {} {} hsettings

/-- A line of the dotenv file that cannot be read is complained about before the message. -/
theorem run_compose_complains :
    let h : Host :=
      { file := fun path =>
          if path = Host.dotenvPath then .ok (Utf8.encode "= 2\n".toList) else .error .missing }
    Command.ofArguments ["compose".toList, "x".toList] = .ok (.compose ["x".toList] none) ∧
      Region.IsMalformed "x".toList ∧ h.settings = .ok (.ok {}) ∧
      ({} : Host).settings = .ok (.ok {}) ∧
      run h ["compose".toList, "x".toList] =
        .ok { exit := 2, errors := linesText [Dotenv.complaint 1, Region.malformed "x".toList] } ∧
      run {} ["compose".toList, "x".toList] =
        .ok { exit := 2, errors := linesText [Region.malformed "x".toList] } := by
  decide +kernel

end CommandLine

end Statechart
