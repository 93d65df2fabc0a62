import Mathlib.Data.List.Forall2
import Statechart.Proofs.Catalog.Related
import Statechart.Proofs.Numeral.Lenient
import Statechart.Settings.Basic

/-!
# The name of a level says nothing else

The environment names a level, and the dotenv file may put its name into other values.  No such
value is an integer, since the name of a level holds letters.  So whichever level is named, the
settings can be used or not, and their indentation is the same
(`Host.SameButLogLevel.map_indent_settings`).

`Alike s t` says how the values of two runs compare: they are the same, or neither is an integer.
References are put in alike (`expand_alike`), and so is one binding after the other
(`related_values`).
-/

namespace Statechart

open Text Catalog.Entries
open Numeral (isNumberChar)

namespace Settings

/-- A value that names a level. -/
def NamesLevel (value : Text) : Prop := ∃ level, logLevelOf value = .ok level

/-- The same value, or two values of which neither is made of number characters. -/
def Alike (s t : Text) : Prop := s = t ∨ (¬ AllIn isNumberChar s ∧ ¬ AllIn isNumberChar t)

/-- The same value, or two values of the setting for the level of which each names one. -/
def SameButLevel (name s t : Text) : Prop :=
  s = t ∨ (sameName logLevelName name = true ∧ NamesLevel s ∧ NamesLevel t)

variable {s s' t t' : Text}

/-! ## Names of levels -/

/-- Number characters have no capitals. -/
lemma upperChar_of_isNumberChar {c : Char} (hc : isNumberChar c = true) : upperChar c = [c] := by
  -- they are ASCII and stand before the small letters, or they are blank
  have hcode : c.toNat < 97 ∨ (c.toNat - 0x2000 < 11 ∧ 0x2000 ≤ c.toNat) ∨
      c.toNat ∈ [0x85, 0xA0, 0x1680, 0x2028, 0x2029, 0x202F, 0x205F, 0x3000] := by
    simp only [isNumberChar, Bool.or_eq_true, Digits.isAscii, List.contains_iff_mem] at hc
    rcases hc with (hdigit | hsign) | hblank
    · simp only [Char.isDigit, Bool.and_eq_true, decide_eq_true_eq] at hdigit
      have hnine : c.toNat ≤ 57 := hdigit.2
      exact .inl (by omega)
    · have hsigns : ("+-._".toList.all (·.toNat < 97)) = true := by decide
      exact .inl (of_decide_eq_true (List.all_eq_true.mp hsigns c hsign))
    · simp only [isBlank, Bool.or_eq_true, Bool.and_eq_true, decide_eq_true_eq, beq_iff_eq,
        List.mem_cons, List.not_mem_nil] at hblank ⊢
      omega
  have hascii : ∀ n < 97, upperChar (Char.ofNat n) = [Char.ofNat n] := by decide +kernel
  have hspaces : ∀ n < 11, upperChar (Char.ofNat (n + 0x2000)) = [Char.ofNat (n + 0x2000)] := by
    decide +kernel
  have hblanks : ∀ n ∈ [0x85, 0xA0, 0x1680, 0x2028, 0x2029, 0x202F, 0x205F, 0x3000],
      upperChar (Char.ofNat n) = [Char.ofNat n] := by decide +kernel
  rw [← Char.ofNat_toNat c]
  rcases hcode with hlow | ⟨hspace, hle⟩ | hblank
  · exact hascii _ hlow
  · have hcapital := hspaces _ hspace
    rwa [Nat.sub_add_cancel hle] at hcapital
  · exact hblanks _ hblank

lemma upper_eq_self (h : AllIn isNumberChar s) : upper s = s := by
  induction s with
  | nil => rfl
  | cons c s ih =>
    obtain ⟨hc, hs⟩ := allIn_cons.mp h
    rw [upper, List.flatMap_cons, upperChar_of_isNumberChar hc]
    exact congrArg (c :: ·) (ih hs)

/-- The name of a level is not made of number characters. -/
lemma NamesLevel.not_allIn (h : NamesLevel s) : ¬ AllIn isNumberChar s := by
  obtain ⟨level, hlevel⟩ := h
  intro hall
  have htrim : AllIn isNumberChar (trim s) := fun c hc => hall c (mem_of_mem_trim hc)
  have hmem : trim s ∈ logLevels := by
    rw [logLevelOf, upper_eq_self htrim] at hlevel
    by_contra hno
    simp [hno] at hlevel
  have hletters : (logLevels.all fun level => !level.all isNumberChar) = true := by decide
  have hletter := List.all_eq_true.mp hletters _ hmem
  rw [List.all_eq_true.mpr htrim] at hletter
  exact absurd hletter (by decide)

/-! ## Alike values -/

@[refl] lemma Alike.refl (s : Text) : Alike s s := .inl rfl

lemma SameButLevel.alike {name : Text} (h : SameButLevel name s t) : Alike s t := by
  rcases h with rfl | ⟨-, hs, ht⟩
  · exact .refl s
  · exact .inr ⟨hs.not_allIn, ht.not_allIn⟩

lemma Alike.append (h : Alike s t) (h' : Alike s' t') : Alike (s ++ s') (t ++ t') := by
  unfold Alike at h h' ⊢
  simp only [allIn_append]
  rcases h with rfl | h
  · rcases h' with rfl | h'
    · exact .inl rfl
    · exact .inr ⟨fun hall => h'.1 hall.2, fun hall => h'.2 hall.2⟩
  · exact .inr ⟨fun hall => h.1 hall.1, fun hall => h.2 hall.1⟩

/-- Of two alike values, both give the same indentation or neither gives one. -/
lemma Alike.toOption_indentOf (h : Alike s t) :
    (indentOf t).toOption = (indentOf s).toOption := by
  have hnone {s : Text} (hs : ¬ AllIn isNumberChar s) : (indentOf s).toOption = none := by
    unfold indentOf
    cases hnumber : Numeral.lenient s with
    | error d => cases d <;> rfl
    | ok n => exact absurd (Numeral.allIn_of_lenient_eq_ok hnumber) hs
  rcases h with rfl | ⟨hs, ht⟩
  · rfl
  · rw [hnone hs, hnone ht]

/-- References are put in alike if what they stand for is alike. -/
lemma expand_alike {lookup lookup' : Text → Option Text}
    (hlookup : ∀ name, Option.Rel Alike (lookup name) (lookup' name)) (fuel : Nat) (s : Text) :
    Alike (Dotenv.expand lookup fuel s) (Dotenv.expand lookup' fuel s) := by
  fun_induction Dotenv.expand lookup fuel s with
  | case1 s => rw [Dotenv.expand]
  | case2 fuel => rw [Dotenv.expand]
  | case3 fuel s name fallback rest hreference ih =>
    simp only [Dotenv.expand, hreference]
    exact Alike.append (rel_getD (hlookup name) (.refl fallback)) ih
  | case4 fuel s hreference ih =>
    simp only [Dotenv.expand, hreference]
    exact Alike.append (.refl ['$']) ih
  | case5 fuel c s hplain ih =>
    have hstep : Dotenv.expand lookup' (fuel + 1) (c :: s) =
        c :: Dotenv.expand lookup' fuel s := by
      rw [Dotenv.expand]
      exact hplain
    rw [hstep]
    exact Alike.append (.refl [c]) ih

/-! ## Settings from related sources -/

variable {environment environment' : List (Text × Text)} {lines : List Dotenv.Line}
  {sources sources' : Sources}

/-- The dotenv file gives alike values. -/
lemma related_values (henv : Related SameButLevel environment environment')
    (lines : List Dotenv.Line) :
    Related (fun _ => Option.Rel Alike) (Dotenv.values environment lines).entries
      (Dotenv.values environment' lines).entries := by
  refine List.foldl_rel (r := fun (c c' : Catalog (Option Text)) =>
    Related (fun _ => Option.Rel Alike) c.entries c'.entries) .nil ?_
  intro b _ bound bound' hbound
  refine hbound.revise ?_
  cases b.2 with
  | none => exact .none
  | some value =>
    refine .some (expand_alike (fun name => ?_) _ _)
    -- a name that is bound further up, or else a name of the environment
    have hname : Option.Rel (Option.Rel Alike) (bound.get? name) (bound'.get? name) := hbound.get?
    generalize bound.get? name = found, bound'.get? name = found' at hname ⊢
    cases hname with
    | none => exact rel_mono (fun _ _ => SameButLevel.alike) henv.get?
    | some hvalue => exact .some (rel_getD hvalue (.refl []))

/-- A value that is given under the name of a setting. -/
lemma rel_last? {α : Type} {R : Text → α → α → Prop} {es fs : List (Text × α)}
    (h : Related R es fs) (name : Text) :
    Option.Rel (fun v w => ∃ given, sameName name given = true ∧ R given v w)
      (last? name es) (last? name fs) := by
  have hlast := h.getLast?_filter (sameName name)
  unfold last?
  generalize (es.filter fun e => sameName name e.1).getLast? = x,
    (fs.filter fun f => sameName name f.1).getLast? = y at hlast ⊢
  cases hlast with
  | none => exact .none
  | @some e f hef => exact .some ⟨e.1, hef⟩

/-- The indentation is given by alike values. -/
lemma rel_get?_indentName (henv : Related SameButLevel sources.environment sources'.environment)
    (hdotenv : Related (fun _ => Option.Rel Alike) sources.dotenv.entries
      sources'.dotenv.entries) :
    Option.Rel Alike (sources.get? indentName) (sources'.get? indentName) := by
  refine rel_orElse (rel_mono (fun _ _ h => ?_) (rel_last? henv indentName)) ?_
  · obtain ⟨_, _, hR⟩ := h
    exact hR.alike
  · have hlast := rel_last? hdotenv indentName
    generalize last? indentName sources.dotenv.entries = x,
      last? indentName sources'.dotenv.entries = y at hlast ⊢
    cases hlast with
    | none => exact .none
    | some h =>
      obtain ⟨_, _, hR⟩ := h
      exact hR

/-- If no name of the environment is that of the setting for the level, the environments are the
same. -/
lemma eq_of_last?_eq_none (henv : Related SameButLevel environment environment')
    (hnone : last? logLevelName environment = none) : environment = environment' := by
  have hno : ∀ e ∈ environment, sameName logLevelName e.1 = false := by
    simpa [last?, List.getLast?_eq_none_iff] using hnone
  clear hnone
  induction henv with
  | nil => rfl
  | @cons e f es fs hef _ ih =>
    obtain ⟨he, hes⟩ := List.forall_mem_cons.mp hno
    obtain ⟨hname, heq | ⟨hlevel, -⟩⟩ := hef
    · rw [ih hes, Prod.ext hname heq]
    · exact absurd hlevel (by simp [he])

/-- The level is given by the same value or by the names of two levels. -/
lemma rel_get?_logLevelName (henv : Related SameButLevel sources.environment sources'.environment)
    (hdotenv : sources.environment = sources'.environment →
      sources.dotenv = sources'.dotenv) :
    Option.Rel (fun v w => v = w ∨ (NamesLevel v ∧ NamesLevel w)) (sources.get? logLevelName)
      (sources'.get? logLevelName) := by
  unfold Sources.get?
  have hlast := rel_last? henv logLevelName
  cases hgiven : last? logLevelName sources.environment with
  | none =>
    have heq := eq_of_last?_eq_none henv hgiven
    rw [← heq, hgiven, ← hdotenv heq]
    cases (last? logLevelName sources.dotenv.entries).join with
    | none => exact .none
    | some v => exact .some (.inl rfl)
  | some v =>
    rw [hgiven] at hlast
    generalize last? logLevelName sources'.environment = y at hlast
    cases hlast with
    | some h =>
      obtain ⟨_, _, heq | ⟨-, hnames⟩⟩ := h
      · exact .some (.inl heq)
      · exact .some (.inr hnames)

lemma toOption_ofSources_map_indent (s : Sources) :
    (ofSources s).toOption.map indent =
      (settle logLevelOf ({} : Settings).logLevel (s.get? logLevelName)).toOption.bind fun _ =>
        (settle indentOf ({} : Settings).indent (s.get? indentName)).toOption := by
  unfold ofSources
  cases settle logLevelOf ({} : Settings).logLevel (s.get? logLevelName) <;>
    cases settle indentOf ({} : Settings).indent (s.get? indentName) <;> rfl

/-- Sources that differ in the name of the level give the same indentation, or neither gives
settings. -/
lemma map_indent_ofSources (henv : Related SameButLevel sources.environment sources'.environment)
    (hvalues : Related (fun _ => Option.Rel Alike) sources.dotenv.entries
      sources'.dotenv.entries)
    (hdotenv : sources.environment = sources'.environment → sources.dotenv = sources'.dotenv) :
    (ofSources sources').toOption.map indent = (ofSources sources).toOption.map indent := by
  have hlevel :
      (settle logLevelOf ({} : Settings).logLevel (sources'.get? logLevelName)).toOption.isSome =
        (settle logLevelOf ({} : Settings).logLevel
          (sources.get? logLevelName)).toOption.isSome := by
    have hrel := rel_get?_logLevelName henv hdotenv
    generalize sources.get? logLevelName = x, sources'.get? logLevelName = y at hrel ⊢
    cases hrel with
    | none => rfl
    | some h =>
      rcases h with rfl | ⟨⟨level, hv⟩, level', hw⟩
      · rfl
      · simp only [settle, hv, hw]
        rfl
  have hindent :
      (settle indentOf ({} : Settings).indent (sources'.get? indentName)).toOption =
        (settle indentOf ({} : Settings).indent (sources.get? indentName)).toOption := by
    have hrel := rel_get?_indentName henv hvalues
    generalize sources.get? indentName = x, sources'.get? indentName = y at hrel ⊢
    cases hrel with
    | none => rfl
    | some h => exact h.toOption_indentOf
  rw [toOption_ofSources_map_indent, toOption_ofSources_map_indent, hindent]
  generalize (settle logLevelOf ({} : Settings).logLevel (sources.get? logLevelName)).toOption = x,
    (settle logLevelOf ({} : Settings).logLevel (sources'.get? logLevelName)).toOption = y
    at hlevel ⊢
  cases x <;> cases y <;> simp_all

end Settings

namespace Host

variable {h h' : Host}

/-- The settings that a host gives, or what is wrong with them. -/
def settings (h : Host) : Except ReadFault (Except (List Settings.Fault) Settings) :=
  h.dotenvLines.map fun lines => Settings.ofSources (h.sources lines)

/-- Two hosts with the same files and the same standard input, whose environments give the same
values but for the name of the level. -/
structure SameButLogLevel (h h' : Host) : Prop where
  /-- The files are the same. -/
  file : h'.file = h.file
  /-- The standard input is the same. -/
  input : h'.input = h.input
  /-- The environments bind the same names to the same values, but for the name of the level. -/
  environment : Related Settings.SameButLevel h.environment h'.environment

/-- Whichever level is named, the settings can be used or not, and their indentation is the
same. -/
theorem SameButLogLevel.map_indent_settings (hsame : SameButLogLevel h h') :
    h'.settings.map (fun s => s.toOption.map Settings.indent) =
      h.settings.map (fun s => s.toOption.map Settings.indent) := by
  have hlines : h'.dotenvLines = h.dotenvLines := by
    unfold dotenvLines dotenvText
    rw [hsame.file]
  unfold settings
  rw [hlines]
  cases h.dotenvLines with
  | error fault => simp only [Except.map]
  | ok lines =>
    have hindent : (Settings.ofSources (h'.sources lines)).toOption.map Settings.indent =
        (Settings.ofSources (h.sources lines)).toOption.map Settings.indent := by
      refine Settings.map_indent_ofSources hsame.environment
        (Settings.related_values hsame.environment lines) fun henv => ?_
      exact congrArg (fun environment => Dotenv.values environment lines) henv
    simp only [Except.map, hindent]

end Host

end Statechart
