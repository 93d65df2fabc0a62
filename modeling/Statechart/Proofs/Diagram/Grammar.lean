import Statechart.Diagram.Draft
import Statechart.Proofs.Text.Scan

/-!
# The grammar of diagram lines

The four rules of `Statement` are functions that read a line from left to right.  This file says
without them what each rule recognises: `InitialPlace`, `TransitionPlace`, `FinalPlace` and
`DeclarationPlace` describe a place of a line by the text before and after it, and a rule gives the
statement that belongs to the leftmost such place (`initial?_eq_some_iff` and its three siblings).

`Says s st` puts them in order: a trimmed line `s` says `st` by the first rule with a place in the
line.  `ofTrimmed?_eq_some_iff` states that reading a line follows this grammar, so the marks that
are looked for before a rule is tried never change what a line says.
-/

namespace Statechart.Statement

open Text

variable {s t : Text} {st : Statement}

/-! ## Places of a line -/

/-- An arrow with any number of ASCII blanks on both sides. -/
def IsLink (s : Text) : Prop :=
  ∃ left right, s = left ++ arrow ++ right ∧ AllIn isAsciiBlank left ∧ AllIn isAsciiBlank right

/-- The event of a transition into `target`, from the text after the target: what follows a colon,
trimmed, if this is not empty, and the unlabelled event otherwise. -/
inductive EventOf (target tail : Text) : Text → Prop
  /-- There is a colon with a label behind it. -/
  | labelled {blanks label : Text} (htail : tail = blanks ++ ':' :: label)
      (hblanks : AllIn isAsciiBlank blanks) (hlabel : trim label ≠ []) :
      EventOf target tail (trim label)
  /-- There is no colon, or nothing but blanks behind it. -/
  | unlabelled (hnone : ∀ blanks label, tail = blanks ++ ':' :: label →
      AllIn isAsciiBlank blanks → trim label = []) :
      EventOf target tail (unlabelledEvent target)

/-- A quoted label and the word `as`, with ASCII blanks after both. -/
def IsAlias (s : Text) : Prop :=
  ∃ label gap₁ gap₂, s = '"' :: label ++ '"' :: gap₁ ++ «as» ++ gap₂ ∧
    label ≠ [] ∧ '"' ∉ label ∧
    gap₁ ≠ [] ∧ AllIn isAsciiBlank gap₁ ∧ gap₂ ≠ [] ∧ AllIn isAsciiBlank gap₂

/-- Here starts `[*] --> Name`. -/
def InitialPlace (_before rest : Text) (st : Statement) : Prop :=
  ∃ link name tail, rest = outside ++ link ++ name ++ tail ∧
    IsLink link ∧ IsWord name ∧ StartsOutside isWordChar tail ∧ st = .initial name

/-- Here starts `Source --> Target : Event`, where the source is a whole word. -/
def TransitionPlace (before rest : Text) (st : Statement) : Prop :=
  EndsOutside isWordChar before ∧
    ∃ source link target tail event, rest = source ++ link ++ target ++ tail ∧
      IsWord source ∧ IsLink link ∧ IsWord target ∧ StartsOutside isWordChar tail ∧
      EventOf target tail event ∧ st = .transition source target event

/-- Here starts `Name --> [*]`, where the name is a whole word. -/
def FinalPlace (before rest : Text) (st : Statement) : Prop :=
  EndsOutside isWordChar before ∧
    ∃ name link tail, rest = name ++ link ++ outside ++ tail ∧
      IsWord name ∧ IsLink link ∧ st = .final name

/-- Here starts `state Name` or `state "Label" as Name`. -/
def DeclarationPlace (_before rest : Text) (st : Statement) : Prop :=
  ∃ gap lead name tail, rest = declares ++ gap ++ lead ++ name ++ tail ∧
    gap ≠ [] ∧ AllIn isAsciiBlank gap ∧ (lead = [] ∨ IsAlias lead) ∧
    IsWord name ∧ StartsOutside isWordChar tail ∧ st = .declaration name

/-- What a trimmed line says: the statement of the leftmost place of the first rule that has a
place in the line. -/
inductive Says (s : Text) : Statement → Prop
  /-- The first rule fits. -/
  | initial {st : Statement} (h : AtLeftmost InitialPlace s st) : Says s st
  /-- The second rule fits, and the first does not. -/
  | transition {st : Statement} (h₁ : ¬ Contains InitialPlace s)
      (h : AtLeftmost TransitionPlace s st) : Says s st
  /-- The third rule fits, and the first two do not. -/
  | final {st : Statement} (h₁ : ¬ Contains InitialPlace s) (h₂ : ¬ Contains TransitionPlace s)
      (h : AtLeftmost FinalPlace s st) : Says s st
  /-- Only the fourth rule fits. -/
  | declaration {st : Statement} (h₁ : ¬ Contains InitialPlace s)
      (h₂ : ¬ Contains TransitionPlace s) (h₃ : ¬ Contains FinalPlace s)
      (h : AtLeftmost DeclarationPlace s st) : Says s st

/-! ## Reading links and names -/

lemma startsOutside_isAsciiBlank_of_isWord {w : Text} (hw : IsWord w) (tail : Text) :
    StartsOutside isAsciiBlank (w ++ tail) := by
  obtain ⟨hne, hall⟩ := hw
  cases w with
  | nil => exact absurd rfl hne
  | cons c w =>
    rw [List.cons_append, startsOutside_cons, ← Bool.not_eq_true]
    intro hblank
    have hword := isBlank_eq_false_of_isWordChar (allIn_cons.mp hall).1
    rw [isBlank_of_isAsciiBlank hblank] at hword
    exact absurd hword (by decide)

lemma IsLink.startsOutside_isWordChar (h : IsLink s) (tail : Text) :
    StartsOutside isWordChar (s ++ tail) := by
  obtain ⟨left, right, rfl, hleft, -⟩ := h
  cases left with
  | nil =>
    change StartsOutside isWordChar ('-' :: _)
    rw [startsOutside_cons]
    decide
  | cons c left =>
    rw [List.append_assoc, List.append_assoc, List.cons_append, startsOutside_cons,
      ← Bool.not_eq_true]
    intro hword
    have hblank := isBlank_of_isAsciiBlank (allIn_cons.mp hleft).1
    rw [isBlank_eq_false_of_isWordChar hword] at hblank
    exact absurd hblank (by decide)

/-- Reading past an arrow reads past a link, as far as the blanks go. -/
lemma pastArrow?_eq_some_iff :
    pastArrow? s = some t ↔ ∃ link, s = link ++ t ∧ IsLink link ∧ StartsOutside isAsciiBlank t := by
  unfold pastArrow?
  rw [Option.map_eq_some_iff]
  constructor
  · rintro ⟨u, hu, ht⟩
    obtain ⟨left, hs, hleft, -⟩ := skipAsciiBlanks_eq_iff.mp (past?_eq_some_iff.mp hu)
    obtain ⟨right, rfl, hright, hstart⟩ := skipAsciiBlanks_eq_iff.mp ht
    exact ⟨left ++ arrow ++ right, by simp [hs], ⟨left, right, rfl, hleft, hright⟩, hstart⟩
  · rintro ⟨link, rfl, ⟨left, right, rfl, hleft, hright⟩, hstart⟩
    refine ⟨right ++ t, past?_eq_some_iff.mpr (skipAsciiBlanks_eq_iff.mpr ?_),
      skipAsciiBlanks_eq_iff.mpr ⟨right, rfl, hright, hstart⟩⟩
    exact ⟨left, by simp, hleft, startsOutside_cons.mpr (by decide)⟩

/-- A link and a name are read as the two together. -/
lemma pastArrow?_bind_word?_eq_some_iff {name tail : Text} :
    (pastArrow? s).bind word? = some (name, tail) ↔
      ∃ link, s = link ++ name ++ tail ∧ IsLink link ∧ IsWord name ∧
        StartsOutside isWordChar tail := by
  rw [Option.bind_eq_some_iff]
  constructor
  · rintro ⟨u, hu, hw⟩
    obtain ⟨link, rfl, hlink, -⟩ := pastArrow?_eq_some_iff.mp hu
    obtain ⟨rfl, hword, htail⟩ := word?_eq_some_iff.mp hw
    exact ⟨link, (List.append_assoc ..).symm, hlink, hword, htail⟩
  · rintro ⟨link, rfl, hlink, hword, htail⟩
    refine ⟨name ++ tail, pastArrow?_eq_some_iff.mpr ⟨link, List.append_assoc .., hlink, ?_⟩,
      word?_eq_some_iff.mpr ⟨rfl, hword, htail⟩⟩
    exact startsOutside_isAsciiBlank_of_isWord hword tail

/-! ## Rules and places -/

lemma initialAt?_eq (s : Text) : initialAt? s =
    ((past? outside s).bind fun rest => (pastArrow? rest).bind word?).map Prod.fst := by
  unfold initialAt?
  cases past? outside s with
  | none => rfl
  | some rest =>
    cases h : pastArrow? rest with
    | none => simp [h]
    | some u => cases hw : word? u <;> simp [h, hw]

lemma initialAt?_eq_some_iff {name : Text} :
    initialAt? s = some name ↔
      ∃ link tail, s = outside ++ link ++ name ++ tail ∧ IsLink link ∧ IsWord name ∧
        StartsOutside isWordChar tail := by
  rw [initialAt?_eq, Option.map_eq_some_iff]
  constructor
  · rintro ⟨⟨name', tail⟩, h, rfl⟩
    obtain ⟨rest, hs, hrest⟩ := Option.bind_eq_some_iff.mp h
    obtain ⟨link, rfl, hlink, hword, htail⟩ := pastArrow?_bind_word?_eq_some_iff.mp hrest
    refine ⟨link, tail, ?_, hlink, hword, htail⟩
    rw [past?_eq_some_iff.mp hs]
    simp
  · rintro ⟨link, tail, rfl, hlink, hword, htail⟩
    refine ⟨(name, tail), Option.bind_eq_some_iff.mpr ⟨link ++ name ++ tail, ?_, ?_⟩, rfl⟩
    · exact past?_eq_some_iff.mpr (by simp)
    · exact pastArrow?_bind_word?_eq_some_iff.mpr ⟨link, rfl, hlink, hword, htail⟩

/-- The label is what follows the colon. -/
lemma label?_getD_of_eq_append {blanks label : Text} (hs : s = blanks ++ ':' :: label)
    (hblanks : AllIn isAsciiBlank blanks) : (label? s).getD [] = label := by
  have hskip : skipAsciiBlanks s = ':' :: label :=
    skipAsciiBlanks_eq_iff.mpr ⟨blanks, hs, hblanks, startsOutside_cons.mpr (by decide)⟩
  have hpast : past? [':'] (':' :: label) = some label := past?_eq_some_iff.mpr rfl
  unfold label?
  rw [hskip, hpast]
  cases label <;> rfl

/-- A label that is not empty follows a colon. -/
lemma exists_eq_append_of_label?_eq_some {label : Text} (h : label? s = some label) :
    ∃ blanks, s = blanks ++ ':' :: label ∧ AllIn isAsciiBlank blanks := by
  unfold label? at h
  split at h
  · next c rest hpast =>
    obtain rfl := Option.some.inj h
    obtain ⟨blanks, hs, hblanks, -⟩ := skipAsciiBlanks_eq_iff.mp (past?_eq_some_iff.mp hpast)
    exact ⟨blanks, hs, hblanks⟩
  · exact absurd h (by simp)

/-- The event that a transition is read with is the one that the text after its target gives. -/
lemma eventOf_iff {target tail event : Text} :
    EventOf target tail event ↔
      event = if trim ((label? tail).getD []) = [] then unlabelledEvent target
        else trim ((label? tail).getD []) := by
  constructor
  · intro h
    cases h with
    | labelled htail hblanks hlabel =>
      rw [label?_getD_of_eq_append htail hblanks, if_neg hlabel]
    | unlabelled hnone =>
      rw [if_pos]
      cases h : label? tail with
      | none => rfl
      | some label =>
        obtain ⟨blanks, htail, hblanks⟩ := exists_eq_append_of_label?_eq_some h
        exact hnone blanks label htail hblanks
  · rintro rfl
    by_cases hempty : trim ((label? tail).getD []) = []
    · rw [if_pos hempty]
      refine .unlabelled fun blanks label htail hblanks => ?_
      rwa [label?_getD_of_eq_append htail hblanks] at hempty
    · rw [if_neg hempty]
      cases h : label? tail with
      | none =>
        rw [h] at hempty
        exact absurd rfl hempty
      | some label =>
        rw [h] at hempty
        obtain ⟨blanks, htail, hblanks⟩ := exists_eq_append_of_label?_eq_some h
        exact .labelled htail hblanks hempty

lemma transitionFrom?_eq (source rest : Text) : transitionFrom? source rest =
    ((pastArrow? rest).bind word?).map fun p =>
      .transition source p.1 (if trim ((label? p.2).getD []) = [] then unlabelledEvent p.1
        else trim ((label? p.2).getD [])) := by
  unfold transitionFrom?
  cases h : pastArrow? rest with
  | none => rfl
  | some u => cases hw : word? u <;> simp [hw]

/-- What follows the source of a transition. -/
lemma transitionFrom?_eq_some_iff {source rest : Text} :
    transitionFrom? source rest = some st ↔
      ∃ link target tail event, rest = link ++ target ++ tail ∧ IsLink link ∧ IsWord target ∧
        StartsOutside isWordChar tail ∧ EventOf target tail event ∧
        st = .transition source target event := by
  rw [transitionFrom?_eq, Option.map_eq_some_iff]
  constructor
  · rintro ⟨⟨target, tail⟩, h, rfl⟩
    obtain ⟨link, hrest, hlink, hword, htail⟩ := pastArrow?_bind_word?_eq_some_iff.mp h
    exact ⟨link, target, tail, _, hrest, hlink, hword, htail, eventOf_iff.mpr rfl, rfl⟩
  · rintro ⟨link, target, tail, event, hrest, hlink, hword, htail, hevent, rfl⟩
    refine ⟨(target, tail), ?_, by rw [eventOf_iff.mp hevent]⟩
    exact pastArrow?_bind_word?_eq_some_iff.mpr ⟨link, hrest, hlink, hword, htail⟩

lemma finalFrom?_eq (name rest : Text) : finalFrom? name rest =
    ((pastArrow? rest).bind (past? outside)).map fun _ => .final name := by
  unfold finalFrom?
  cases h : pastArrow? rest with
  | none => rfl
  | some u => cases hw : past? outside u <;> simp [hw]

/-- What follows the name in front of a final marker. -/
lemma finalFrom?_eq_some_iff {name rest : Text} :
    finalFrom? name rest = some st ↔
      ∃ link tail, rest = link ++ outside ++ tail ∧ IsLink link ∧ st = .final name := by
  rw [finalFrom?_eq, Option.map_eq_some_iff]
  constructor
  · rintro ⟨tail, h, rfl⟩
    obtain ⟨u, hu, htail⟩ := Option.bind_eq_some_iff.mp h
    obtain ⟨link, rfl, hlink, -⟩ := pastArrow?_eq_some_iff.mp hu
    exact ⟨link, tail, by simp [past?_eq_some_iff.mp htail], hlink, rfl⟩
  · rintro ⟨link, tail, rfl, hlink, rfl⟩
    refine ⟨tail, Option.bind_eq_some_iff.mpr ⟨outside ++ tail, ?_, past?_append outside tail⟩, rfl⟩
    exact pastArrow?_eq_some_iff.mpr
      ⟨link, List.append_assoc .., hlink, startsOutside_cons.mpr (by decide)⟩

/-- One ASCII blank or more are read as far as they go. -/
lemma pastBlanks?_eq_some_iff :
    pastBlanks? s = some t ↔
      ∃ gap, s = gap ++ t ∧ gap ≠ [] ∧ AllIn isAsciiBlank gap ∧ StartsOutside isAsciiBlank t := by
  cases s with
  | nil => simp +contextual [pastBlanks?]
  | cons c s =>
    rw [pastBlanks?]
    constructor
    · intro h
      by_cases hc : isAsciiBlank c = true
      · rw [if_pos hc, Option.some.injEq] at h
        obtain ⟨gap, rfl, hgap, hstart⟩ := skipAsciiBlanks_eq_iff.mp h
        exact ⟨c :: gap, rfl, by simp, allIn_cons.mpr ⟨hc, hgap⟩, hstart⟩
      · rw [if_neg hc] at h
        exact absurd h (by simp)
    · rintro ⟨gap, hs, hne, hgap, hstart⟩
      cases gap with
      | nil => exact absurd rfl hne
      | cons d gap =>
        obtain ⟨rfl, htail⟩ := List.cons.inj hs
        obtain ⟨hc, hgap⟩ := allIn_cons.mp hgap
        rw [if_pos hc, skipAsciiBlanks_eq_iff.mpr ⟨gap, htail, hgap, hstart⟩]

/-- A quoted label with `as` is read from the text after its opening quote. -/
lemma pastAlias?_eq_some_iff :
    pastAlias? s = some t ↔
      ∃ lead, '"' :: s = lead ++ t ∧ IsAlias lead ∧ StartsOutside isAsciiBlank t := by
  unfold pastAlias?
  constructor
  · intro h
    obtain ⟨⟨label, rest⟩, hcut, hrest⟩ := Option.bind_eq_some_iff.mp h
    obtain ⟨hs, hquote⟩ := cut?_eq_some_iff.mp hcut
    change (if label = [] then none else _) = _ at hrest
    by_cases hlabel : label = []
    · rw [if_pos hlabel] at hrest
      exact absurd hrest (by simp)
    · rw [if_neg hlabel] at hrest
      obtain ⟨u, hu, hbehind⟩ := Option.bind_eq_some_iff.mp hrest
      obtain ⟨v, hv, hend⟩ := Option.bind_eq_some_iff.mp hbehind
      obtain ⟨gap₁, rfl, hne₁, hgap₁, -⟩ := pastBlanks?_eq_some_iff.mp hu
      obtain rfl := past?_eq_some_iff.mp hv
      obtain ⟨gap₂, rfl, hne₂, hgap₂, hstart⟩ := pastBlanks?_eq_some_iff.mp hend
      exact ⟨'"' :: label ++ '"' :: gap₁ ++ «as» ++ gap₂, by simp [hs],
        ⟨label, gap₁, gap₂, rfl, hlabel, hquote, hne₁, hgap₁, hne₂, hgap₂⟩, hstart⟩
  · rintro ⟨lead, hs, ⟨label, gap₁, gap₂, rfl, hlabel, hquote, hne₁, hgap₁, hne₂, hgap₂⟩, hstart⟩
    have hs : s = label ++ '"' :: (gap₁ ++ («as» ++ (gap₂ ++ t))) := by simpa using hs
    refine Option.bind_eq_some_iff.mpr ⟨(label, _), cut?_eq_some_iff.mpr ⟨hs, hquote⟩, ?_⟩
    change (if label = [] then none else _) = _
    rw [if_neg hlabel]
    refine Option.bind_eq_some_iff.mpr ⟨«as» ++ (gap₂ ++ t), ?_, ?_⟩
    · exact pastBlanks?_eq_some_iff.mpr
        ⟨gap₁, rfl, hne₁, hgap₁, startsOutside_cons.mpr (by decide)⟩
    · refine Option.bind_eq_some_iff.mpr ⟨gap₂ ++ t, past?_append _ _, ?_⟩
      exact pastBlanks?_eq_some_iff.mpr ⟨gap₂, rfl, hne₂, hgap₂, hstart⟩

/-- A label is passed with its `as`, and a text that opens no label is left alone. -/
lemma pastLabel?_eq_some_iff :
    pastLabel? s = some t ↔
      (s.head? ≠ some '"' ∧ t = s) ∨
        ∃ lead, s = lead ++ t ∧ IsAlias lead ∧ StartsOutside isAsciiBlank t := by
  constructor
  · intro h
    unfold pastLabel? at h
    split at h
    · exact .inr (pastAlias?_eq_some_iff.mp h)
    · next hquote =>
      refine .inl ⟨?_, (Option.some.inj h).symm⟩
      intro hhead
      obtain ⟨quoted, hs⟩ := List.head?_eq_some_iff.mp hhead
      exact hquote quoted hs
  · rintro (⟨hhead, rfl⟩ | ⟨lead, hs, halias, hstart⟩)
    · unfold pastLabel?
      split
      · exact absurd rfl hhead
      · rfl
    · obtain ⟨quoted, hquoted⟩ : ∃ quoted, s = '"' :: quoted := by
        obtain ⟨label, gap₁, gap₂, rfl, -⟩ := halias
        exact ⟨_, hs⟩
      rw [hquoted] at hs ⊢
      exact pastAlias?_eq_some_iff.mpr ⟨lead, hs, halias, hstart⟩

/-- What follows `state`: the name, possibly behind a quoted label. -/
lemma declaredName?_eq_some_iff {name : Text} :
    declaredName? s = some name ↔
      ∃ gap lead tail, s = gap ++ lead ++ name ++ tail ∧ gap ≠ [] ∧ AllIn isAsciiBlank gap ∧
        (lead = [] ∨ IsAlias lead) ∧ IsWord name ∧ StartsOutside isWordChar tail := by
  unfold declaredName?
  constructor
  · intro h
    obtain ⟨rest, hrest, hbehind⟩ := Option.bind_eq_some_iff.mp h
    obtain ⟨u, hu, hword⟩ := Option.bind_eq_some_iff.mp hbehind
    obtain ⟨⟨name', tail⟩, hw, hname⟩ := Option.bind_eq_some_iff.mp hword
    obtain rfl : name' = name := Option.some.inj hname
    obtain ⟨gap, rfl, hne, hgap, -⟩ := pastBlanks?_eq_some_iff.mp hrest
    obtain ⟨rfl, hword, htail⟩ := word?_eq_some_iff.mp hw
    rcases pastLabel?_eq_some_iff.mp hu with ⟨-, rfl⟩ | ⟨lead, rfl, halias, -⟩
    · exact ⟨gap, [], tail, by simp, hne, hgap, .inl rfl, hword, htail⟩
    · exact ⟨gap, lead, tail, by simp, hne, hgap, .inr halias, hword, htail⟩
  · rintro ⟨gap, lead, tail, rfl, hne, hgap, hlead, hword, htail⟩
    have hstart := startsOutside_isAsciiBlank_of_isWord hword tail
    have hlabel : pastLabel? (lead ++ (name ++ tail)) = some (name ++ tail) := by
      rcases hlead with rfl | halias
      · refine pastLabel?_eq_some_iff.mpr (.inl ⟨?_, rfl⟩)
        obtain ⟨hnil, hall⟩ := hword
        cases name with
        | nil => exact absurd rfl hnil
        | cons c name =>
          rintro hhead
          obtain rfl : c = '"' := Option.some.inj hhead
          exact absurd (allIn_cons.mp hall).1 (by decide)
      · exact pastLabel?_eq_some_iff.mpr (.inr ⟨lead, rfl, halias, hstart⟩)
    have hlead_start : StartsOutside isAsciiBlank (lead ++ (name ++ tail)) := by
      rcases hlead with rfl | ⟨label, gap₁, gap₂, rfl, -⟩
      · exact hstart
      · exact startsOutside_cons.mpr (by decide)
    refine Option.bind_eq_some_iff.mpr ⟨lead ++ (name ++ tail), ?_, ?_⟩
    · exact pastBlanks?_eq_some_iff.mpr ⟨gap, by simp, hne, hgap, hlead_start⟩
    · refine Option.bind_eq_some_iff.mpr ⟨name ++ tail, hlabel, ?_⟩
      exact Option.bind_eq_some_iff.mpr
        ⟨(name, tail), word?_eq_some_iff.mpr ⟨rfl, hword, htail⟩, rfl⟩

/-! ## The leftmost place of a rule -/

section LeftmostWord

variable {α : Type} {f : Text → Text → Option α} {inside : Bool} {a : α}

/-- Here starts a whole word on which `f` succeeds.  `inside` says whether the text continues a
word. -/
def WordPlace (f : Text → Text → Option α) (inside : Bool) (before rest : Text) (a : α) : Prop :=
  (if before = [] then inside = false else EndsOutside isWordChar before) ∧
    ∃ w tail, word? rest = some (w, tail) ∧ f w tail = some a

/-- After a first character, a word is whole if it does not continue that character. -/
lemma wordPlace_cons_iff {c : Char} {before rest : Text} :
    WordPlace f inside (c :: before) rest a ↔ WordPlace f (isWordChar c) before rest a := by
  unfold WordPlace
  cases before with
  | nil => simp [EndsOutside]
  | cons d before => simp [EndsOutside]

lemma not_wordPlace_nil_cons {c : Char} {tail : Text} (hc : isWordChar c = false) :
    ¬ WordPlace f inside [] (c :: tail) a := by
  rintro ⟨-, w, rest, hw, -⟩
  obtain ⟨hs, ⟨hne, hall⟩, -⟩ := word?_eq_some_iff.mp hw
  cases w with
  | nil => exact hne rfl
  | cons d w =>
    obtain ⟨rfl, -⟩ := List.cons.inj hs
    rw [(allIn_cons.mp hall).1] at hc
    exact absurd hc (by decide)

/-- `leftmostWord` finds the first whole word on which `f` succeeds. -/
lemma leftmostWord_eq_some_iff :
    leftmostWord f inside s = some a ↔ AtLeftmost (WordPlace f inside) s a := by
  induction s generalizing inside with
  | nil =>
    rw [atLeftmost_nil_iff]
    simp [leftmostWord, WordPlace, word?]
  | cons c s ih =>
    have hshift : AtLeftmost (fun before => WordPlace f inside (c :: before)) s a ↔
        leftmostWord f (isWordChar c) s = some a := by
      rw [ih]
      exact atLeftmost_congr fun _ _ _ => wordPlace_cons_iff
    rw [atLeftmost_cons_iff, hshift, leftmostWord]
    cases hc : isWordChar c with
    | false =>
      have hnone : ∀ b, ¬ WordPlace f inside [] (c :: s) b := fun b => not_wordPlace_nil_cons hc
      simp [hnone]
    | true =>
      rw [if_pos rfl]
      cases inside with
      | true =>
        have hnone : ∀ b, ¬ WordPlace f true [] (c :: s) b := by simp [WordPlace]
        simp [hnone]
      | false =>
        cases hw : word? (c :: s) with
        | none =>
          have hnone : ∀ b, ¬ WordPlace f false [] (c :: s) b := by simp [WordPlace, hw]
          simp [hnone]
        | some p =>
          have hhere : ∀ b, WordPlace f false [] (c :: s) b ↔ f p.1 p.2 = some b := by
            intro b
            unfold WordPlace
            rw [hw]
            simp [Prod.ext_iff]
          cases hf : f p.1 p.2 with
          | none => simp [hhere, hf]
          | some b => simp [hhere, hf]

/-- Nothing stands before a whole line, so its words are whole at its start. -/
lemma wordPlace_false_iff {before rest : Text} :
    WordPlace f false before rest a ↔ EndsOutside isWordChar before ∧
      ∃ w tail, rest = w ++ tail ∧ IsWord w ∧ StartsOutside isWordChar tail ∧
        f w tail = some a := by
  unfold WordPlace
  have hstart : (if before = [] then false = false else EndsOutside isWordChar before) ↔
      EndsOutside isWordChar before := by
    by_cases hbefore : before = []
    · simp [hbefore]
    · simp [hbefore]
  rw [hstart]
  simp only [word?_eq_some_iff, and_assoc]

end LeftmostWord

/-- The first rule gives the statement of the leftmost initial marker. -/
theorem initial?_eq_some_iff : initial? s = some st ↔ AtLeftmost InitialPlace s st := by
  unfold initial?
  rw [map_leftmost, leftmost_eq_some_iff]
  apply atLeftmost_congr
  intro before rest st
  simp only [Option.map_eq_some_iff, initialAt?_eq_some_iff, InitialPlace]
  constructor
  · rintro ⟨name, ⟨link, tail, hrest, hlink, hword, htail⟩, rfl⟩
    exact ⟨link, name, tail, hrest, hlink, hword, htail, rfl⟩
  · rintro ⟨link, name, tail, hrest, hlink, hword, htail, rfl⟩
    exact ⟨name, ⟨link, tail, hrest, hlink, hword, htail⟩, rfl⟩

/-- The second rule gives the statement of the leftmost transition. -/
theorem transition?_eq_some_iff : transition? s = some st ↔ AtLeftmost TransitionPlace s st := by
  unfold transition?
  rw [leftmostWord_eq_some_iff]
  apply atLeftmost_congr
  intro before rest st
  rw [wordPlace_false_iff]
  simp only [transitionFrom?_eq_some_iff, TransitionPlace]
  constructor
  · rintro ⟨hbefore, source, _, rfl, hsource, -, link, target, tail, event, rfl, h⟩
    exact ⟨hbefore, source, link, target, tail, event, by simp, hsource, h⟩
  · rintro ⟨hbefore, source, link, target, tail, event, rfl, hsource, hlink, h⟩
    refine ⟨hbefore, source, link ++ target ++ tail, by simp, hsource, ?_, link, target, tail,
      event, rfl, hlink, h⟩
    rw [List.append_assoc]
    exact hlink.startsOutside_isWordChar _

/-- The third rule gives the statement of the leftmost final marker. -/
theorem final?_eq_some_iff : final? s = some st ↔ AtLeftmost FinalPlace s st := by
  unfold final?
  rw [leftmostWord_eq_some_iff]
  apply atLeftmost_congr
  intro before rest st
  rw [wordPlace_false_iff]
  simp only [finalFrom?_eq_some_iff, FinalPlace]
  constructor
  · rintro ⟨hbefore, name, _, rfl, hname, -, link, tail, rfl, h⟩
    exact ⟨hbefore, name, link, tail, by simp, hname, h⟩
  · rintro ⟨hbefore, name, link, tail, rfl, hname, hlink, h⟩
    refine ⟨hbefore, name, link ++ outside ++ tail, by simp, hname, ?_, link, tail, rfl, hlink, h⟩
    rw [List.append_assoc]
    exact hlink.startsOutside_isWordChar _

/-- The fourth rule gives the statement of the leftmost declaration. -/
theorem declaration?_eq_some_iff :
    declaration? s = some st ↔ AtLeftmost DeclarationPlace s st := by
  unfold declaration?
  rw [map_leftmost, leftmost_eq_some_iff]
  apply atLeftmost_congr
  intro before rest st
  simp only [declarationAt?, Option.map_eq_some_iff, Option.bind_eq_some_iff, past?_eq_some_iff,
    declaredName?_eq_some_iff, DeclarationPlace]
  constructor
  · rintro ⟨name, ⟨_, hrest, gap, lead, tail, rfl, hne, hgap, hlead, hword, htail⟩, rfl⟩
    exact ⟨gap, lead, name, tail, by simp [hrest], hne, hgap, hlead, hword, htail, rfl⟩
  · rintro ⟨gap, lead, name, tail, rfl, hne, hgap, hlead, hword, htail, rfl⟩
    exact ⟨name, ⟨gap ++ lead ++ name ++ tail, by simp, gap, lead, tail, rfl, hne, hgap, hlead,
      hword, htail⟩, rfl⟩

/-! ## The order of the rules -/

lemma IsLink.occurs_arrow {link : Text} (h : IsLink link) (before tail : Text) :
    occurs arrow (before ++ (link ++ tail)) = true := by
  obtain ⟨left, right, rfl, -, -⟩ := h
  exact occurs_eq_true_iff.mpr ⟨before ++ left, right ++ tail, by simp⟩

/-- A rule only fits a line that holds its mark. -/
lemma occurs_of_mem_rules {mark : Text} {rule : Text → Option Statement}
    (hrule : (mark, rule) ∈ rules) (h : rule s = some st) : occurs mark s = true := by
  simp only [rules, List.mem_cons, List.not_mem_nil, or_false, Prod.mk.injEq] at hrule
  rcases hrule with ⟨rfl, rfl⟩ | ⟨rfl, rfl⟩ | ⟨rfl, rfl⟩ | ⟨rfl, rfl⟩
  · obtain ⟨before, rest, -, rfl, link, name, tail, rfl, hlink, -⟩ :=
      (initial?_eq_some_iff.mp h).contains
    simpa using hlink.occurs_arrow (before ++ outside) (name ++ tail)
  · obtain ⟨before, rest, -, rfl, -, source, link, target, tail, -, rfl, -, hlink, -⟩ :=
      (transition?_eq_some_iff.mp h).contains
    simpa using hlink.occurs_arrow (before ++ source) (target ++ tail)
  · obtain ⟨before, rest, -, rfl, -, name, link, tail, rfl, -, hlink, -⟩ :=
      (final?_eq_some_iff.mp h).contains
    simpa using hlink.occurs_arrow (before ++ name) (outside ++ tail)
  · obtain ⟨before, rest, -, rfl, gap, lead, name, tail, rfl, -⟩ :=
      (declaration?_eq_some_iff.mp h).contains
    exact occurs_eq_true_iff.mpr ⟨before, gap ++ lead ++ name ++ tail, by simp⟩

lemma findSome?_congr {α β : Type} {f g : α → Option β} {l : List α} (h : ∀ x ∈ l, f x = g x) :
    l.findSome? f = l.findSome? g := by
  induction l with
  | nil => rfl
  | cons x l ih =>
    obtain ⟨hx, hl⟩ := List.forall_mem_cons.mp h
    rw [List.findSome?_cons, List.findSome?_cons, hx, ih hl]

/-- The marks may be left out: a line says what the first rule that fits makes of it. -/
theorem ofTrimmed?_eq_findSome? (s : Text) :
    ofTrimmed? s = rules.findSome? fun rule => rule.2 s := by
  apply findSome?_congr
  rintro ⟨mark, rule⟩ hrule
  change (if occurs mark s then rule s else none) = rule s
  cases h : rule s with
  | none => simp
  | some st => rw [if_pos (occurs_of_mem_rules hrule h)]

/-- Reading a trimmed line follows the grammar. -/
theorem ofTrimmed?_eq_some_iff : ofTrimmed? s = some st ↔ Says s st := by
  have h₁ : initial? s = none ↔ ¬ Contains InitialPlace s :=
    eq_none_iff_not_contains fun _ => initial?_eq_some_iff
  have h₂ : transition? s = none ↔ ¬ Contains TransitionPlace s :=
    eq_none_iff_not_contains fun _ => transition?_eq_some_iff
  have h₃ : final? s = none ↔ ¬ Contains FinalPlace s :=
    eq_none_iff_not_contains fun _ => final?_eq_some_iff
  rw [ofTrimmed?_eq_findSome?]
  simp only [rules, List.findSome?_cons, List.findSome?_nil]
  constructor
  · intro h
    cases hi : initial? s with
    | some i =>
      rw [hi] at h
      obtain rfl := Option.some.inj h
      exact .initial (initial?_eq_some_iff.mp hi)
    | none =>
      cases ht : transition? s with
      | some t =>
        rw [hi, ht] at h
        obtain rfl := Option.some.inj h
        exact .transition (h₁.mp hi) (transition?_eq_some_iff.mp ht)
      | none =>
        cases hf : final? s with
        | some f =>
          rw [hi, ht, hf] at h
          obtain rfl := Option.some.inj h
          exact .final (h₁.mp hi) (h₂.mp ht) (final?_eq_some_iff.mp hf)
        | none =>
          cases hd : declaration? s with
          | some d =>
            rw [hi, ht, hf, hd] at h
            obtain rfl := Option.some.inj h
            exact .declaration (h₁.mp hi) (h₂.mp ht) (h₃.mp hf) (declaration?_eq_some_iff.mp hd)
          | none =>
            rw [hi, ht, hf, hd] at h
            exact absurd h (by simp)
  · intro h
    cases h with
    | initial h => rw [initial?_eq_some_iff.mpr h]
    | transition hi h => rw [h₁.mpr hi, transition?_eq_some_iff.mpr h]
    | final hi ht h => rw [h₁.mpr hi, h₂.mpr ht, final?_eq_some_iff.mpr h]
    | declaration hi ht hf h =>
      rw [h₁.mpr hi, h₂.mpr ht, h₃.mpr hf, declaration?_eq_some_iff.mpr h]

/-! ## Whole lines -/

/-- What a line says: what its trimmed text says, unless this is empty or a comment. -/
def LineSays (line : Text) (st : Statement) : Prop :=
  trim line ≠ [] ∧ (trim line).head? ≠ some '%' ∧ Says (trim line) st

/-- A line that is neither blank nor a comment is read by the rules. -/
lemma ofLine?_eq_ofTrimmed? (line : Text) :
    ofLine? line =
      if trim line = [] ∨ (trim line).head? = some '%' then none else ofTrimmed? (trim line) := by
  unfold ofLine?
  split
  · next h => simp [h]
  · next c s h => simp [h]

/-- Reading a line follows the grammar. -/
lemma ofLine?_eq_some_iff {line : Text} : ofLine? line = some st ↔ LineSays line st := by
  rw [ofLine?_eq_ofTrimmed?]
  unfold LineSays
  by_cases h : trim line = [] ∨ (trim line).head? = some '%'
  · rw [if_pos h]
    constructor
    · intro hnone
      exact absurd hnone (by simp)
    · rintro ⟨hne, hcomment, -⟩
      exact absurd h (not_or.mpr ⟨hne, hcomment⟩)
  · rw [if_neg h, ofTrimmed?_eq_some_iff]
    obtain ⟨hne, hcomment⟩ := not_or.mp h
    exact ⟨fun hsays => ⟨hne, hcomment, hsays⟩, fun hsays => hsays.2.2⟩

/-! ## What the rules find -/

lemma exists_initial_of_atLeftmost {s : Text} (h : AtLeftmost InitialPlace s st) :
    ∃ name, IsWord name ∧ st = .initial name := by
  obtain ⟨_, _, -, ⟨_, name, _, -, -, hword, -, hst⟩, -⟩ := h
  exact ⟨name, hword, hst⟩

lemma exists_transition_of_atLeftmost {s : Text} (h : AtLeftmost TransitionPlace s st) :
    ∃ source target event, IsWord source ∧ IsWord target ∧
      st = .transition source target event := by
  obtain ⟨_, _, -, ⟨-, source, _, target, _, event, -, hsource, -, htarget, -, -, hst⟩, -⟩ := h
  exact ⟨source, target, event, hsource, htarget, hst⟩

lemma exists_final_of_atLeftmost {s : Text} (h : AtLeftmost FinalPlace s st) :
    ∃ name, IsWord name ∧ st = .final name := by
  obtain ⟨_, _, -, ⟨-, name, _, _, -, hword, -, hst⟩, -⟩ := h
  exact ⟨name, hword, hst⟩

lemma exists_declaration_of_atLeftmost {s : Text} (h : AtLeftmost DeclarationPlace s st) :
    ∃ name, IsWord name ∧ st = .declaration name := by
  obtain ⟨_, _, -, ⟨_, _, name, _, -, -, -, -, hword, -, hst⟩, -⟩ := h
  exact ⟨name, hword, hst⟩

/-! ## What a statement mentions -/

/-- The states that a statement mentions, the source of a transition before its target. -/
def mentioned : Statement → List Text
  | .initial name => [name]
  | .transition source target _ => [source, target]
  | .final name => [name]
  | .declaration name => [name]

lemma isWord_of_lineSays {line name : Text} (h : LineSays line st) (hname : name ∈ st.mentioned) :
    IsWord name := by
  obtain ⟨-, -, hsays⟩ := h
  cases hsays with
  | initial h =>
    obtain ⟨_, hword, rfl⟩ := exists_initial_of_atLeftmost h
    rw [mentioned, List.mem_singleton] at hname
    exact hname ▸ hword
  | transition _ h =>
    obtain ⟨_, _, _, hsource, htarget, rfl⟩ := exists_transition_of_atLeftmost h
    rw [mentioned, List.mem_pair] at hname
    rcases hname with rfl | rfl
    · exact hsource
    · exact htarget
  | final _ _ h =>
    obtain ⟨_, hword, rfl⟩ := exists_final_of_atLeftmost h
    rw [mentioned, List.mem_singleton] at hname
    exact hname ▸ hword
  | declaration _ _ _ h =>
    obtain ⟨_, hword, rfl⟩ := exists_declaration_of_atLeftmost h
    rw [mentioned, List.mem_singleton] at hname
    exact hname ▸ hword

end Statechart.Statement

namespace Statechart.Draft

/-- Reading a line takes in exactly the statement that the grammar gives it, and leaves the draft
as it is if the grammar gives none. -/
theorem readLine_follows_grammar (d : Draft) (line : Text) :
    (∀ st, Statement.ofLine? line = some st ↔ Statement.LineSays line st) ∧
      ((∃ st, Statement.LineSays line st ∧ d.readLine line = d.add st) ∨
        (∀ st, ¬ Statement.LineSays line st) ∧ d.readLine line = d) := by
  refine ⟨fun st => Statement.ofLine?_eq_some_iff, ?_⟩
  unfold readLine
  cases h : Statement.ofLine? line with
  | some st => exact .inl ⟨st, Statement.ofLine?_eq_some_iff.mp h, rfl⟩
  | none =>
    refine .inr ⟨fun st hsays => ?_, rfl⟩
    rw [Statement.ofLine?_eq_some_iff.mpr hsays] at h
    exact absurd h (by simp)

end Statechart.Draft
