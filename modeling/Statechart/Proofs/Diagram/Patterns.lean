import Statechart.Proofs.Diagram.Meaning
import Statechart.Proofs.Text.Committed
import Statechart.Proofs.Text.MaximalRun

/-!
# The rules as patterns

Each of the four rules can be written as a pattern that is searched for in the line (`Rule.plain`).
Three things spare the search work: a rule is only tried on a line that holds its mark, a search
for a name does not start inside a word, and the runs of which names, labels and blanks consist are
never shortened once they have been taken (`Rule.pattern`).  `firing?` says which rule fires on a
line under these conditions, and what its groups take.  `plainFiring?` says the same for a search
without any of them, which tries all rules at all places in all ways.

The two agree on every line (`firing?_eq_plainFiring?`).  For the commitments this holds because
nothing that follows a name can start with a word character, nothing that follows a label can start
inside it, and nothing that follows the blanks can start with a blank.  The first of these also
makes the places inside words useless: what fits there fits one place before.

Reading a line (`ofLine?`) is looking for the rule that fires (`ofLine?_eq_readBy_firing?`), so the
machine of a diagram is the one that the plain search finds
(`Machine.ofDiagram_eq_ofDiagramBy_plainFiring?`).
-/

namespace Statechart.Statement

open Text

/-! ## Patterns -/

/-- The four things that a line can say, in the order in which they are tried. -/
inductive Rule where
  /-- The machine starts in a state. -/
  | initial
  /-- An event leads from one state to another. -/
  | transition
  /-- The machine may end in a state. -/
  | final
  /-- There is a state. -/
  | declaration
  deriving DecidableEq

/-- The characters of a label in quotes. -/
def isUnquoted (c : Char) : Bool := c != '"'

/-- Any number of blanks. -/
def blanks : Pattern := .run isAsciiBlank 0 .most

/-- At least one blank. -/
def someBlanks : Pattern := .run isAsciiBlank 1 .most

/-- A name. -/
def word : Pattern := .run isWordChar 1 .most

/-- An arrow with blanks on both sides, and `q` behind them. -/
def behindArrow (q : Pattern) : Pattern :=
  .seq blanks (.seq (.text arrow) (.seq blanks q))

/-- Blanks, and the rest of the line as a group. -/
def labelEnd : Pattern := .seq blanks (.group (.run isInLine 1 .most))

/-- A colon with blanks on both sides, and the rest of the line as a group. -/
def labelPattern : Pattern := .seq blanks (.seq (.text [':']) labelEnd)

/-- A label in quotes as a group, and `as` between blanks. -/
def plainAlias : Pattern :=
  .seq (.text ['"']) (.seq (.group (.run isUnquoted 1 .most)) (.seq (.text ['"'])
    (.seq someBlanks (.seq (.text «as») someBlanks))))

/-- The same, where neither the label nor the blanks are shortened. -/
def aliasPattern : Committed :=
  .seq (.free (.text ['"'])) (.seq (.group (.commit (.free (.run isUnquoted 1 .most))))
    (.seq (.free (.text ['"'])) (.seq (.commit (.free someBlanks))
      (.seq (.free (.text «as»)) (.commit (.free someBlanks))))))

namespace Rule

/-- The rules in the order in which they are tried. -/
def all : List Rule := [.initial, .transition, .final, .declaration]

/-- What a line must hold for the rule to be tried on it. -/
def mark : Rule → Text
  | initial => arrow
  | transition => arrow
  | final => arrow
  | declaration => declares

/-- The characters behind which the rule is not tried. -/
def barred : Rule → Char → Bool
  | initial => fun _ => false
  | transition => isWordChar
  | final => isWordChar
  | declaration => fun _ => false

/-- What the rule looks for. -/
def plain : Rule → Pattern
  | initial => .seq (.text outside) (behindArrow (.group word))
  | transition => .seq (.group word) (behindArrow (.seq (.group word) (.option labelPattern)))
  | final => .seq (.group word) (behindArrow (.text outside))
  | declaration => .seq (.text declares) (.seq someBlanks
      (.seq (.option plainAlias) (.group word)))

/-- The same, where names in front of an arrow and the blanks behind `state` are not shortened. -/
def pattern : Rule → Committed
  | initial => .free (.seq (.text outside) (behindArrow (.group word)))
  | transition => .seq (.group (.commit (.free word)))
      (.free (behindArrow (.seq (.group word) (.option labelPattern))))
  | final => .seq (.group (.commit (.free word))) (.free (behindArrow (.text outside)))
  | declaration => .seq (.free (.text declares)) (.seq (.commit (.free someBlanks))
      (.seq (.option aliasPattern) (.free (.group word))))

/-- What the group with this number took, counted from zero; nothing if it took no part. -/
def noted (groups : List (Option Text)) (n : Nat) : Text := (groups.getD n none).getD []

/-- The statement that the groups of the rule make. -/
def statement : Rule → List (Option Text) → Statement
  | initial, groups => .initial (noted groups 0)
  | transition, groups =>
    let event := trim (noted groups 2)
    .transition (noted groups 0) (noted groups 1)
      (if event = [] then unlabelledEvent (noted groups 1) else event)
  | final, groups => .final (noted groups 0)
  | declaration, groups => .declaration (noted groups 1)

/-- The reader that goes over the line once. -/
def reader : Rule → Text → Option Statement
  | initial => initial?
  | transition => transition?
  | final => final?
  | declaration => declaration?

end Rule

/-- The first rule that fires on a trimmed line, and how its pattern matches.  A rule is tried if
the line holds its mark, and not behind characters that bar it. -/
def firing? (s : Text) : Option (Rule × Outcome) :=
  Rule.all.findSome? fun rule =>
    if occurs rule.mark s then (Committed.search rule.barred rule.pattern s).map (rule, ·) else none

/-- The first rule that fires on a trimmed line, and how its pattern matches, if all rules are tried
at all places in all ways. -/
def plainFiring? (s : Text) : Option (Rule × Outcome) :=
  Rule.all.findSome? fun rule => (rule.plain.search s).map (rule, ·)

/-- What a line says if `fires` tells which rule fires on its trimmed text.  Blank lines and
comments say nothing. -/
def readBy (fires : Text → Option (Rule × Outcome)) (line : Text) : Option Statement :=
  if trim line = [] ∨ (trim line).head? = some '%' then none
  else (fires (trim line)).map fun fired => fired.1.statement fired.2.groups

/-! ## The conditions lose nothing -/

lemma isWordChar_eq_false_of_isAsciiBlank {c : Char} (h : isAsciiBlank c = true) :
    isWordChar c = false := by
  rw [← Bool.not_eq_true]
  intro hword
  have hblank := isBlank_of_isAsciiBlank h
  rw [isBlank_eq_false_of_isWordChar hword] at hblank
  exact absurd hblank (by decide)

lemma isAsciiBlank_eq_false_of_isWordChar {c : Char} (h : isWordChar c = true) :
    isAsciiBlank c = false :=
  isAsciiBlank_eq_false_of_isBlank (isBlank_eq_false_of_isWordChar h)

/-- No word goes on where an arrow is looked for. -/
lemma refuses_behindArrow (q : Pattern) : (behindArrow q).Refuses isWordChar := by
  have harrow : (Pattern.text arrow).Refuses isWordChar := Pattern.refuses_text rfl
  exact (harrow.seq _).run_seq fun c => isAsciiBlank_eq_false_of_isWordChar

/-- No blank stands where a name is looked for. -/
lemma refuses_word : (Pattern.group word).Refuses isAsciiBlank := by
  have hword : word.Refuses isAsciiBlank :=
    Pattern.refuses_run (fun c => isWordChar_eq_false_of_isAsciiBlank) (by decide)
  exact hword.group

/-- No blank stands where a label in quotes or a name is looked for. -/
lemma refuses_aliasPattern_word :
    (Pattern.seq (.option plainAlias) (.group word)).Refuses isAsciiBlank := by
  have halias : plainAlias.Refuses isAsciiBlank := (Pattern.refuses_text rfl).seq _
  exact halias.option_seq refuses_word

/-- Committing to a label in quotes, and to the blanks behind it and behind `as`, loses nothing. -/
lemma faithful_aliasPattern_word :
    Committed.Faithful (.seq aliasPattern (.free (.group word))) := by
  have hblanks : Committed.Faithful (.seq (.commit (.free someBlanks)) (.free (.group word))) :=
    (Committed.faithful_free _).commit_seq (Committed.faithful_free _)
      (Pattern.settles_run refuses_word)
  have has := ((Committed.faithful_free (.text «as»)).seq hblanks).seq_seq
  have hgap := ((Committed.faithful_free someBlanks).commit_seq has
    (Pattern.settles_run (((Pattern.refuses_text rfl).seq _).seq _))).seq_seq
  have hquote := ((Committed.faithful_free (.text ['"'])).seq hgap).seq_seq
  have hlabel := ((Committed.faithful_free (.run isUnquoted 1 .most)).group_commit_seq hquote
    (Pattern.settles_run (((Pattern.refuses_text rfl).seq _).seq _))).seq_seq
  exact ((Committed.faithful_free (.text ['"'])).seq hlabel).seq_seq

lemma Rule.relax_pattern (rule : Rule) : rule.pattern.relax = rule.plain := by
  cases rule <;> rfl

lemma Rule.faithful_pattern (rule : Rule) : rule.pattern.Faithful := by
  have hname : ∀ q, Committed.Faithful
      (.seq (.group (.commit (.free word))) (.free (behindArrow q))) := by
    intro q
    exact (Committed.faithful_free _).group_commit_seq (Committed.faithful_free _)
      (Pattern.settles_run (refuses_behindArrow q))
  cases rule with
  | initial => exact Committed.faithful_free _
  | transition => exact hname _
  | final => exact hname _
  | declaration =>
    have hdeclared := faithful_aliasPattern_word.option_seq (Committed.faithful_free _)
    exact (Committed.faithful_free _).seq ((Committed.faithful_free _).commit_seq hdeclared
      (Pattern.settles_run refuses_aliasPattern_word))

/-- Where a rule is barred and fits, it fits one place before. -/
lemma Rule.outcomes_eq_nil_of_barred (rule : Rule) (c : Char) (s : Text)
    (hc : rule.barred c = true) (hnil : rule.pattern.relax.outcomes (c :: s) = []) :
    rule.pattern.relax.outcomes s = [] := by
  cases rule with
  | initial => exact absurd hc Bool.false_ne_true
  | transition => exact Pattern.outcomes_eq_nil_of_cons (refuses_behindArrow _) hc hnil
  | final => exact Pattern.outcomes_eq_nil_of_cons (refuses_behindArrow _) hc hnil
  | declaration => exact absurd hc Bool.false_ne_true

/-- A rule finds the same with and without the conditions under which it searches. -/
lemma Rule.search_pattern (rule : Rule) (s : Text) :
    Committed.search rule.barred rule.pattern s = rule.plain.search s := by
  rw [← relax_pattern]
  exact Committed.search_eq_search_relax rule.faithful_pattern rule.outcomes_eq_nil_of_barred s

/-! ## Readers and patterns -/

lemma word?_eq (s : Text) : word? s =
    if 1 ≤ (s.takeWhile isWordChar).length then
      some (s.takeWhile isWordChar, s.dropWhile isWordChar)
    else none := by
  unfold word?
  cases s.takeWhile isWordChar <;> simp

lemma pastBlanks?_eq (s : Text) : pastBlanks? s =
    if 1 ≤ (s.takeWhile isAsciiBlank).length then some (skipAsciiBlanks s) else none := by
  cases s with
  | nil => rfl
  | cons c s =>
    by_cases hc : isAsciiBlank c = true
    · simp [pastBlanks?, skipAsciiBlanks, hc]
    · simp [pastBlanks?, hc]

/-- Reading up to the next quote is reading a run of other characters and a quote. -/
lemma cut?_quote_eq (s : Text) : cut? '"' s =
    (past? ['"'] (s.dropWhile isUnquoted)).map (s.takeWhile isUnquoted, ·) := by
  induction s with
  | nil => rfl
  | cons c s ih =>
    by_cases hc : c = '"'
    · subst hc
      rfl
    · have hunquoted : isUnquoted c = true := bne_iff_ne.mpr hc
      rw [cut?, if_neg hc, ih, List.takeWhile_cons_of_pos hunquoted,
        List.dropWhile_cons_of_pos hunquoted, Option.map_map]
      rfl

section Groups

variable {q : Pattern} {s : Text}

lemma groups?_group_word : (Pattern.group word).groups? s = (word? s).map fun p => [some p.1] := by
  rw [word, Pattern.groups?_group_run, word?_eq]
  split <;> rfl

lemma groups?_group_word_seq (h : q.Refuses isWordChar) :
    (Pattern.seq (.group word) q).groups? s =
      (word? s).bind fun p => (q.groups? p.2).map (some p.1 :: ·) := by
  rw [word, Pattern.groups?_group_run_seq h, word?_eq]
  split <;> rfl

lemma groups?_someBlanks_seq (h : q.Refuses isAsciiBlank) :
    (Pattern.seq someBlanks q).groups? s = (pastBlanks? s).bind q.groups? := by
  rw [someBlanks, Pattern.groups?_run_seq h, pastBlanks?_eq]
  split <;> rfl

lemma groups?_blanks_seq (h : q.Refuses isAsciiBlank) :
    (Pattern.seq blanks q).groups? s = q.groups? (skipAsciiBlanks s) := by
  rw [blanks, Pattern.groups?_run_seq h, if_pos (Nat.zero_le _)]
  rfl

/-- An arrow is read as the pattern says, if what follows it does not start with a blank. -/
lemma groups?_behindArrow (h : q.Refuses isAsciiBlank) :
    (behindArrow q).groups? s = (pastArrow? s).bind q.groups? := by
  have harrow : (Pattern.seq (.text arrow) (.seq blanks q)).Refuses isAsciiBlank :=
    (Pattern.refuses_text rfl).seq _
  rw [behindArrow, groups?_blanks_seq harrow, Pattern.groups?_text_seq, pastArrow?]
  cases past? arrow (skipAsciiBlanks s) with
  | none => rfl
  | some u => exact groups?_blanks_seq h

end Groups

/-! ## Labels -/

/-- Behind the blanks the rest of the line is taken. -/
lemma groups?_labelEnd_of_ne_nil {b t : Text} (hb : AllIn isAsciiBlank b)
    (ht : StartsOutside isAsciiBlank t) (hne : t ≠ []) (hline : '\n' ∉ t) :
    labelEnd.groups? (b ++ t) = some [some t] := by
  have hrest : Pattern.first (.group (.run isInLine 1 .most)) t
      (fun o => some ((⟨b, t, []⟩ : Outcome).andThen o)) = some ⟨b ++ t, [], [some t]⟩ := by
    have hlength : 1 ≤ t.length := List.length_pos_iff.mpr hne
    have hall : AllIn isInLine t := allIn_isInLine_iff.mpr hline
    have hrun : Pattern.first (.run isInLine 1 .most) (t ++ []) (fun o =>
        some ((⟨b, t, []⟩ : Outcome).andThen { o with groups := some o.taken :: o.groups })) =
          some ⟨b ++ t, [], [some t]⟩ :=
      Pattern.first_run_most hall startsOutside_nil hlength rfl
    rw [List.append_nil] at hrun
    rw [Pattern.first_group]
    exact hrun
  have hfirst : labelEnd.first (b ++ t) some = some ⟨b ++ t, [], [some t]⟩ := by
    rw [labelEnd, Pattern.first_seq]
    exact Pattern.first_run_most hb ht (Nat.zero_le _) hrest
  rw [Pattern.groups?, Pattern.head?_outcomes, hfirst]
  rfl

/-- A label may end wherever the line still has a character for it. -/
lemma mem_outcomes_labelEnd_iff {s : Text} {o : Outcome} : o ∈ labelEnd.outcomes s ↔
    ∃ b u v, s = b ++ (u ++ v) ∧ AllIn isAsciiBlank b ∧ AllIn isInLine u ∧ u ≠ [] ∧
      o = ⟨b ++ u, v, [some u]⟩ := by
  have hlen : ∀ u : Text, 1 ≤ u.length ↔ u ≠ [] := fun u => List.length_pos_iff
  simp only [labelEnd, blanks, Pattern.outcomes, List.mem_flatMap, List.mem_map, Prod.exists,
    Pattern.mem_cuts_iff, hlen]
  constructor
  · rintro ⟨_, ⟨b, t, ⟨rfl, hb, -⟩, rfl⟩, _, ⟨_, ⟨u, v, ⟨hs, hu, hne⟩, rfl⟩, rfl⟩, rfl⟩
    exact ⟨b, u, v, by rw [← hs], hb, hu, hne, rfl⟩
  · rintro ⟨b, u, v, rfl, hb, hu, hne, rfl⟩
    exact ⟨_, ⟨b, u ++ v, ⟨rfl, hb, Nat.zero_le _⟩, rfl⟩, _, ⟨_, ⟨u, v, ⟨rfl, hu, hne⟩, rfl⟩, rfl⟩,
      rfl⟩

/-- Of a line with only blanks left, the label takes blanks. -/
lemma exists_groups?_labelEnd_of_allIn {s : Text} (hs : AllIn isAsciiBlank s) (hne : s ≠ [])
    (hline : '\n' ∉ s) : ∃ u, labelEnd.groups? s = some [some u] ∧ AllIn isAsciiBlank u := by
  have hmem : (⟨s, [], [some s]⟩ : Outcome) ∈ labelEnd.outcomes s :=
    mem_outcomes_labelEnd_iff.mpr
      ⟨[], s, [], by simp, allIn_nil, allIn_isInLine_iff.mpr hline, hne, rfl⟩
  obtain ⟨o, l, houtcomes⟩ := List.exists_cons_of_ne_nil (List.ne_nil_of_mem hmem)
  have ho : o ∈ labelEnd.outcomes s := houtcomes ▸ List.mem_cons_self
  obtain ⟨b, u, v, hsplit, -, -, -, rfl⟩ := mem_outcomes_labelEnd_iff.mp ho
  refine ⟨u, ?_, ?_⟩
  · rw [Pattern.groups?, houtcomes]
    rfl
  · rw [hsplit, allIn_append, allIn_append] at hs
    exact hs.2.1

/-- Up to the blanks around it, the label is all that follows the colon. -/
lemma exists_groups?_labelEnd {s : Text} (hne : s ≠ []) (hline : '\n' ∉ s) :
    ∃ u, labelEnd.groups? s = some [some u] ∧ trim u = trim s := by
  have hwide : ∀ {b : Text}, AllIn isAsciiBlank b → AllIn isBlank b :=
    fun hb c hc => isBlank_of_isAsciiBlank (hb c hc)
  by_cases hs : AllIn isAsciiBlank s
  · obtain ⟨u, hu, hblank⟩ := exists_groups?_labelEnd_of_allIn hs hne hline
    exact ⟨u, hu, (trim_eq_nil_iff.mpr (hwide hblank)).trans (trim_eq_nil_iff.mpr (hwide hs)).symm⟩
  · obtain ⟨b, t, rfl, hb, ht, hstart⟩ := exists_append_of_not_allIn hs
    have hline' : '\n' ∉ t := fun h => hline (List.mem_append_right b h)
    have htrim : trim (b ++ t) = trim t := trim_blanks_append (hwide hb) t
    exact ⟨t, groups?_labelEnd_of_ne_nil hb hstart ht hline', htrim.symm⟩

/-- The label that is noted is the one that is read, up to the blanks around it. -/
lemma trim_noted_labelPattern {s : Text} (hline : '\n' ∉ s) :
    trim (Rule.noted ((labelPattern.groups? s).getD [none]) 0) = trim ((label? s).getD []) := by
  have hgroups : labelPattern.groups? s =
      (past? [':'] (skipAsciiBlanks s)).bind labelEnd.groups? := by
    have hcolon : (Pattern.seq (.text [':']) labelEnd).Refuses isAsciiBlank :=
      (Pattern.refuses_text rfl).seq _
    exact (groups?_blanks_seq hcolon).trans Pattern.groups?_text_seq
  rw [hgroups, label?]
  cases hcolon : past? [':'] (skipAsciiBlanks s) with
  | none => rfl
  | some rest =>
    cases rest with
    | nil => rfl
    | cons c rest =>
      obtain ⟨b, rfl, -, -⟩ := skipAsciiBlanks_eq_iff.mp (past?_eq_some_iff.mp hcolon)
      have hrest : '\n' ∉ c :: rest := by
        intro h
        exact hline (List.mem_append_right b (List.mem_cons_of_mem ':' h))
      obtain ⟨u, hu, htrim⟩ := exists_groups?_labelEnd (List.cons_ne_nil c rest) hrest
      have hbind : (some (c :: rest)).bind labelEnd.groups? = some [some u] := hu
      rw [hbind]
      exact htrim

/-! ## The rules as patterns -/

namespace Rule

variable {s : Text}

lemma groups?_initial : initial.plain.groups? s =
    (initialAt? s).map fun name => [some name] := by
  have hpattern : initial.plain.groups? s =
      (past? outside s).bind (behindArrow (.group word)).groups? := Pattern.groups?_text_seq
  rw [hpattern, initialAt?_eq]
  cases past? outside s with
  | none => rfl
  | some rest =>
    change (behindArrow (.group word)).groups? rest = _
    rw [groups?_behindArrow refuses_word, Option.bind_some, Option.map_map]
    cases pastArrow? rest with
    | none => rfl
    | some u => exact groups?_group_word

/-- A target is read with the label behind it. -/
lemma groups?_target {s : Text} : (Pattern.seq (.group word) (.option labelPattern)).groups? s =
    (word? s).map fun p => some p.1 :: (labelPattern.groups? p.2).getD [none] := by
  have hne : ∀ t, (Pattern.option labelPattern).outcomes t ≠ [] := by
    intro t
    simp [Pattern.outcomes]
  rw [word, Pattern.groups?_group_run_seq_of_ne_nil hne, Pattern.groups?_option, word?_eq]
  split <;> rfl

lemma refuses_target :
    (Pattern.seq (.group word) (.option labelPattern)).Refuses isAsciiBlank :=
  refuses_word.seq _

lemma groups?_transition : transition.plain.groups? s =
    (word? s).bind fun source => ((pastArrow? source.2).bind word?).map fun target =>
      some source.1 :: some target.1 :: (labelPattern.groups? target.2).getD [none] := by
  have hpattern : transition.plain.groups? s = (word? s).bind fun source =>
      ((behindArrow (.seq (.group word) (.option labelPattern))).groups? source.2).map
        (some source.1 :: ·) := groups?_group_word_seq (refuses_behindArrow _)
  rw [hpattern]
  congr 1
  funext source
  rw [groups?_behindArrow refuses_target]
  cases pastArrow? source.2 with
  | none => rfl
  | some u =>
    rw [Option.bind_some, Option.bind_some, groups?_target, Option.map_map]
    rfl

lemma groups?_final : final.plain.groups? s =
    (word? s).bind fun name => ((pastArrow? name.2).bind (past? outside)).map fun _ =>
      [some name.1] := by
  have hpattern : final.plain.groups? s = (word? s).bind fun name =>
      ((behindArrow (.text outside)).groups? name.2).map (some name.1 :: ·) :=
    groups?_group_word_seq (refuses_behindArrow _)
  have houtside : (Pattern.text outside).Refuses isAsciiBlank := Pattern.refuses_text rfl
  rw [hpattern]
  congr 1
  funext name
  rw [groups?_behindArrow houtside]
  cases pastArrow? name.2 with
  | none => rfl
  | some u =>
    rw [Option.bind_some, Option.bind_some, Pattern.groups?_text, Option.map_map]
    rfl

/-- The word `as` and the blanks behind it, and then a name. -/
lemma groups?_as_word : (Pattern.seq (.seq (.text «as») someBlanks) (.group word)).groups? s =
    ((past? «as» s).bind pastBlanks?).bind fun rest => (word? rest).map fun name =>
      [some name.1] := by
  rw [Pattern.groups?_seq_seq, Pattern.groups?_text_seq]
  cases past? «as» s with
  | none => rfl
  | some u =>
    change (Pattern.seq someBlanks (.group word)).groups? u = _
    rw [groups?_someBlanks_seq refuses_word, Option.bind_some]
    congr 1
    funext v
    exact groups?_group_word

/-- What follows a label in quotes: the closing quote, `as` between blanks, and a name. -/
lemma groups?_quote_word :
    (Pattern.seq (.seq (.text ['"']) (.seq someBlanks (.seq (.text «as») someBlanks)))
      (.group word)).groups? s =
      (past? ['"'] s).bind fun rest => (pastBlanks? rest).bind fun rest =>
        ((past? «as» rest).bind pastBlanks?).bind fun rest => (word? rest).map fun name =>
          [some name.1] := by
  have has : (Pattern.seq (.seq (.text «as») someBlanks) (.group word)).Refuses isAsciiBlank :=
    ((Pattern.refuses_text rfl).seq _).seq _
  rw [Pattern.groups?_seq_seq, Pattern.groups?_text_seq]
  congr 1
  funext rest
  rw [Pattern.groups?_seq_seq, groups?_someBlanks_seq has]
  congr 1
  funext rest
  exact groups?_as_word

/-- A label in quotes, `as` and a name: the name is noted behind the label. -/
lemma groups?_alias_word : (Pattern.seq plainAlias (.group word)).groups? ('"' :: s) =
    if 1 ≤ (s.takeWhile isUnquoted).length then
      ((past? ['"'] (s.dropWhile isUnquoted)).bind fun rest => (pastBlanks? rest).bind fun rest =>
        ((past? «as» rest).bind pastBlanks?).bind fun rest => (word? rest).map fun name =>
          [some (s.takeWhile isUnquoted), some name.1])
    else none := by
  have hquote : ∀ q q' : Pattern, (Pattern.seq (.seq (.text ['"']) q) q').Refuses isUnquoted :=
    fun q q' => ((Pattern.refuses_text rfl).seq q).seq q'
  have hpattern : (Pattern.seq plainAlias (.group word)).groups? ('"' :: s) =
      (Pattern.seq (.group (.run isUnquoted 1 .most)) (Pattern.seq (.seq (.text ['"'])
        (.seq someBlanks (.seq (.text «as») someBlanks))) (.group word))).groups? s := by
    rw [← Pattern.groups?_seq_seq]
    exact Pattern.groups?_seq_seq.trans Pattern.groups?_text_seq
  rw [hpattern, Pattern.groups?_group_run_seq (hquote _ _), groups?_quote_word]
  simp only [Option.map_bind, Function.comp_def, Option.map_map]

/-- The name behind a label in quotes is the one that is read. -/
lemma noted_alias_word : ((Pattern.seq plainAlias (.group word)).groups? ('"' :: s)).map
    (noted · 1) = (pastAlias? s).bind fun rest => (word? rest).map Prod.fst := by
  have hlength : 1 ≤ (s.takeWhile isUnquoted).length ↔ s.takeWhile isUnquoted ≠ [] :=
    List.length_pos_iff
  rw [groups?_alias_word, pastAlias?, cut?_quote_eq]
  by_cases hlabel : s.takeWhile isUnquoted = []
  · rw [if_neg (mt hlength.mp (not_not.mpr hlabel))]
    cases past? ['"'] (s.dropWhile isUnquoted) <;> simp [hlabel]
  · rw [if_pos (hlength.mpr hlabel)]
    simp only [hlabel, if_false, Option.bind_eq_bind, Option.map_bind, Option.bind_assoc,
      Option.bind_map, Function.comp_def, Option.map_map]
    rfl

/-- Behind the blanks after `state` the name is read with or without a label in front of it. -/
lemma noted_declared : ((Pattern.seq (.option plainAlias) (.group word)).groups? s).map
    (noted · 1) = (pastLabel? s).bind fun rest => (word? rest).map Prod.fst := by
  rw [Pattern.groups?_option_seq]
  unfold pastLabel?
  split
  · next quoted =>
    have hword : (Pattern.group word).groups? ('"' :: quoted) = none := groups?_group_word
    rw [hword, Option.map_none, Option.or_none, noted_alias_word]
  · next hquote =>
    have hnone : past? ['"'] s = none := by
      rw [Option.eq_none_iff_forall_ne_some]
      intro rest hrest
      exact hquote rest (past?_eq_some_iff.mp hrest)
    have halias : (Pattern.seq plainAlias (.group word)).groups? s = none := by
      refine Pattern.groups?_seq_seq.trans (Pattern.groups?_text_seq.trans ?_)
      rw [hnone, Option.bind_none]
    rw [halias, Option.none_or, groups?_group_word, Option.map_map, Option.map_map]
    rfl

lemma statement_declaration : (declaration.plain.groups? s).map
    declaration.statement = (declarationAt? s).map .declaration := by
  have hpattern : declaration.plain.groups? s = (past? declares s).bind
      fun rest => (pastBlanks? rest).bind
        (Pattern.seq (.option plainAlias) (.group word)).groups? := by
    refine Pattern.groups?_text_seq.trans ?_
    congr 1
    funext rest
    exact groups?_someBlanks_seq refuses_aliasPattern_word
  have hname : (declaration.plain.groups? s).map (noted · 1) =
      declarationAt? s := by
    have hread : declaredName? = fun rest => (pastBlanks? rest).bind fun rest =>
        (pastLabel? rest).bind fun rest => (word? rest).map Prod.fst := by
      funext rest
      unfold declaredName?
      simp only [Option.map_eq_bind]
      rfl
    rw [hpattern, declarationAt?, hread]
    simp only [Option.map_bind, Function.comp_def, noted_declared]
  rw [← hname, Option.map_map]
  rfl

lemma statement_initial : (initial.plain.groups? s).map initial.statement =
    (initialAt? s).map .initial := by
  rw [groups?_initial, Option.map_map]
  rfl

lemma statement_transition (hline : '\n' ∉ s) :
    (transition.plain.groups? s).map transition.statement =
      (word? s).bind fun source => transitionFrom? source.1 source.2 := by
  rw [groups?_transition, Option.map_bind]
  cases hsource : word? s with
  | none => rfl
  | some source =>
    obtain ⟨source, rest⟩ := source
    obtain ⟨rfl, -, -⟩ := word?_eq_some_iff.mp hsource
    rw [Option.bind_some, Option.bind_some, transitionFrom?_eq, Function.comp_apply,
      Option.map_map]
    cases htarget : (pastArrow? rest).bind word? with
    | none => rfl
    | some target =>
      obtain ⟨target, tail⟩ := target
      obtain ⟨link, rfl, -⟩ := pastArrow?_bind_word?_eq_some_iff.mp htarget
      have htail : '\n' ∉ tail := by
        intro h
        exact hline (List.mem_append_right source (List.mem_append_right (link ++ target) h))
      have hlabel := trim_noted_labelPattern htail
      rw [Option.map_some, Option.map_some, ← hlabel]
      rfl

lemma statement_final : (final.plain.groups? s).map final.statement =
    (word? s).bind fun name => finalFrom? name.1 name.2 := by
  rw [groups?_final, Option.map_bind]
  congr 1
  funext name
  rw [finalFrom?_eq, Function.comp_apply, Option.map_map]
  rfl

/-- A search that passes over the places inside words is the search for the leftmost word on which
`f` succeeds, if the pattern fits where `f` does. -/
lemma map_searchFrom_eq_leftmostWord {q : Committed} {f : Text → Text → Option Statement}
    {make : Outcome → Statement} {inside : Bool} (h : ∀ before rest, s = before ++ rest →
      (q.outcomes rest).head?.map make = (word? rest).bind fun name => f name.1 name.2) :
    (Committed.searchFrom isWordChar q inside s).map make = leftmostWord f inside s := by
  induction s generalizing inside with
  | nil =>
    have hnil : (q.outcomes []).head?.map make = none := h [] [] rfl
    rw [Committed.searchFrom, leftmostWord]
    cases inside with
    | false => exact hnil
    | true => rfl
  | cons c s ih =>
    have hhere := h [] (c :: s) rfl
    have hrest : ∀ inside, (Committed.searchFrom isWordChar q inside s).map make =
        leftmostWord f inside s := by
      intro inside
      apply ih
      intro before rest hs
      exact h (c :: before) rest (by rw [hs, List.cons_append])
    rw [Committed.searchFrom, leftmostWord]
    cases hc : isWordChar c with
    | true =>
      rw [if_pos rfl, ← hhere]
      cases inside with
      | true => exact hrest true
      | false =>
        cases (q.outcomes (c :: s)).head? with
        | some o => rfl
        | none => exact hrest true
    | false =>
      have hword : word? (c :: s) = none := by
        rw [word?_eq, List.takeWhile_cons_of_neg (Bool.not_eq_true _ ▸ hc)]
        rfl
      rw [hword, Option.bind_none, Option.map_eq_none_iff] at hhere
      rw [if_neg Bool.false_ne_true, hhere]
      cases inside with
      | true => exact hrest false
      | false => exact hrest false

/-- Searching for the pattern of a rule is reading the line by the rule. -/
lemma map_search_pattern (rule : Rule) (hline : '\n' ∉ s) :
    (rule.plain.search s).map (rule.statement ·.groups) = rule.reader s := by
  have hgroups : ∀ p : Pattern, ∀ make : List (Option Text) → Statement, ∀ rest,
      (p.outcomes rest).head?.map (make ·.groups) = (p.groups? rest).map make := by
    intro p make rest
    rw [Pattern.groups?, Option.map_map]
    rfl
  have hfaithful : ∀ rest, rule.pattern.outcomes rest = rule.plain.outcomes rest := by
    intro rest
    rw [rule.faithful_pattern, relax_pattern]
  cases rule with
  | initial =>
    rw [reader, initial?, Pattern.search, map_leftmost, map_leftmost]
    congr 1
    funext rest
    rw [hgroups, statement_initial]
  | transition =>
    rw [← search_pattern]
    apply map_searchFrom_eq_leftmostWord
    intro before rest hs
    rw [hfaithful, hgroups]
    exact statement_transition fun h => hline (hs ▸ List.mem_append_right before h)
  | final =>
    rw [← search_pattern]
    apply map_searchFrom_eq_leftmostWord
    intro before rest hs
    rw [hfaithful, hgroups]
    exact statement_final
  | declaration =>
    rw [reader, declaration?, Pattern.search, map_leftmost, map_leftmost]
    congr 1
    funext rest
    rw [hgroups, statement_declaration]

end Rule

/-! ## The rule that fires -/

lemma rules_eq_map : rules = Rule.all.map fun rule => (rule.mark, rule.reader) := rfl

/-- A rule only fits a line that holds its mark. -/
lemma Rule.occurs_mark {rule : Rule} {s : Text} {o : Outcome} (hline : '\n' ∉ s)
    (h : rule.plain.search s = some o) : occurs rule.mark s = true := by
  have hread := rule.map_search_pattern hline
  rw [h, Option.map_some] at hread
  have hrule : (rule.mark, rule.reader) ∈ rules := by
    rw [rules_eq_map]
    exact List.mem_map_of_mem (by cases rule <;> decide)
  exact occurs_of_mem_rules hrule hread.symm

/-- Neither the marks nor the commitments and barred places change which rule fires on a line, or
what its groups take. -/
theorem firing?_eq_plainFiring? {s : Text} (hline : '\n' ∉ s) : firing? s = plainFiring? s := by
  apply findSome?_congr
  intro rule hrule
  rw [rule.search_pattern]
  cases h : rule.plain.search s with
  | none => simp
  | some o => rw [if_pos (Rule.occurs_mark hline h)]

/-- Reading a line is looking for the rule that fires. -/
theorem ofLine?_eq_readBy_firing? {line : Text} (hline : '\n' ∉ line) :
    ofLine? line = readBy firing? line := by
  have htrim : '\n' ∉ trim line := fun h => hline (mem_of_mem_trim h)
  rw [ofLine?_eq_byFirstRule?, byFirstRule?, readBy, firing?_eq_plainFiring? htrim]
  congr 1
  rw [rules_eq_map, plainFiring?, List.findSome?_map, List.map_findSome?]
  apply findSome?_congr
  intro rule hrule
  rw [Function.comp_apply, Function.comp_apply, Option.map_map]
  exact (rule.map_search_pattern htrim).symm

end Statechart.Statement

namespace Statechart.Machine

open Text Statement

/-- The machine that a diagram describes if `fires` tells which rule fires on a trimmed line. -/
def ofDiagramBy (fires : Text → Option (Rule × Outcome)) (diagram : Text) : Machine :=
  (((lines diagram).filterMap (readBy fires)).foldl Draft.add {}).toMachine

/-- On every line of a diagram the rule that fires, and what its groups take, are those of a plain
search, and so is the machine. -/
theorem ofDiagram_eq_ofDiagramBy_plainFiring? (diagram : Text) :
    (∀ line ∈ lines diagram, ofLine? line = readBy firing? line ∧
      firing? (trim line) = plainFiring? (trim line)) ∧
    ofDiagram diagram = ofDiagramBy plainFiring? diagram := by
  have hlines : ∀ line ∈ lines diagram, ofLine? line = readBy firing? line ∧
      firing? (trim line) = plainFiring? (trim line) := by
    intro line hmem
    have hline : '\n' ∉ line := not_mem_of_mem_lines hmem
    exact ⟨ofLine?_eq_readBy_firing? hline,
      firing?_eq_plainFiring? fun h => hline (mem_of_mem_trim h)⟩
  refine ⟨hlines, ?_⟩
  have hread : (lines diagram).filterMap (readBy plainFiring?) =
      (lines diagram).filterMap ofLine? := by
    apply List.filterMap_congr
    intro line hmem
    obtain ⟨hline, hfiring⟩ := hlines line hmem
    rw [hline, readBy, readBy, hfiring]
  rw [ofDiagramBy, hread, ofDiagram, Draft.ofLines, List.foldl_filterMap]
  congr 2
  funext d line
  unfold Draft.readLine
  cases ofLine? line <;> rfl

end Statechart.Machine
