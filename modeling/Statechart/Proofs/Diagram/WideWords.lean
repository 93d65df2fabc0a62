import Mathlib.Data.List.DropRight
import Statechart.Proofs.Diagram.Captures

/-!
# Transitions between words of any script

A line with an arrow between two words of any script shows what becomes of names that are not in
ASCII (`Statement.ofLine?_between`).  In front of the arrow, what the first word has at its end is
read, and behind the arrow, what the second word has at its start, as far as this is in ASCII.  So a
word that ends, or starts, in another script makes the line say nothing, and a word that has a
letter of another script elsewhere is cut.

The place of the arrow is settled by its head, of which there is only one in the line
(`Statement.append_eq_of_isLink`).
-/

namespace Statechart

open Text

namespace Statement

variable {source link target before a link' b tail : Text} {st : Statement}

/-- What a transition between two words comes to, if only so much of them is read; nothing if one of
them has nothing to read. -/
def between? (source target : Text) : Option Statement :=
  if source = [] ∨ target = [] then none
  else some (.transition source target (unlabelledEvent target))

/-- Between two words there is one arrow, and what it is between are parts of the two words. -/
lemma append_eq_of_isLink (hsource : IsWideWord source) (hlink : IsLink link)
    (htarget : IsWideWord target) (ha : IsWord a) (hlink' : IsLink link') (hb : IsWord b)
    (h : before ++ (a ++ (link' ++ (b ++ tail))) = source ++ (link ++ target)) :
    before ++ a = source ∧ b ++ tail = target := by
  obtain ⟨l, r, rfl, hl, hr⟩ := hlink
  obtain ⟨l', r', rfl, hl', hr'⟩ := hlink'
  have hhead : isWideWordChar '>' = false := by decide +kernel
  have hhead' : isAsciiBlank '>' = false := by decide
  have hleft : '>' ∉ source ++ l := by simp [hsource.2.not_mem hhead, hl.not_mem hhead']
  have hright : '>' ∉ r ++ target := by simp [htarget.2.not_mem hhead, hr.not_mem hhead']
  have hcut : (source ++ l) ++ (arrow ++ (r ++ target)) =
      (before ++ a ++ l') ++ (arrow ++ (r' ++ (b ++ tail))) := by
    simpa only [List.append_assoc] using h.symm
  obtain ⟨hfront, hback⟩ := append_arrow_inj hleft hright hcut
  have hnarrow : ∀ c, isBlank c = false → isAsciiBlank c = false :=
    fun _ => isAsciiBlank_eq_false_of_isBlank
  constructor
  · have hbefore : EndsOutside isAsciiBlank (before ++ a) :=
      EndsOutside.mono (endsOutside_of_isWord ha before) hnarrow
    exact (append_inj_of_endsOutside (hsource.trimmed.2.mono hnarrow) hl hbefore hl' hfront).1.symm
  · have htail : StartsOutside isAsciiBlank (b ++ tail) :=
      startsOutside_isAsciiBlank_of_isWord hb tail
    exact (append_inj_of_startsOutside hr (htarget.trimmed.1.mono hnarrow) hr' htail hback).2.symm

/-! ### Where the rules fit -/

lemma not_contains_initialPlace_or_finalPlace (hsource : IsWideWord source) (hlink : IsLink link)
    (htarget : IsWideWord target) : ¬ Contains InitialPlace (source ++ (link ++ target)) ∧
      ¬ Contains FinalPlace (source ++ (link ++ target)) := by
  have hbracket : '[' ∉ source ++ (link ++ target) := by
    have hwide : isWideWordChar '[' = false := by decide +kernel
    have hlink' : '[' ∉ link := hlink.not_mem (by decide) (by decide)
    simp [hsource.2.not_mem hwide, hlink', htarget.2.not_mem hwide]
  rw [contains_initialPlace_iff, contains_finalPlace_iff]
  constructor
  · rintro ⟨_, link', b, rfl, -, -, hpart⟩
    exact hbracket (hpart.subset (by simp [outside]))
  · rintro ⟨a, link', _, -, -, rfl, hpart⟩
    exact hbracket (hpart.subset (by simp [outside]))

/-- A transition fits between the two words in one place at most.  In front of the arrow it takes
what the first word ends with, and behind it what the second word starts with. -/
lemma TransitionPlace.eq_of_between {rest : Text} (hsource : IsWideWord source)
    (hlink : IsLink link) (htarget : IsWideWord target) (h : TransitionPlace before rest st)
    (hs : source ++ (link ++ target) = before ++ rest) :
    before = source.rdropWhile isWordChar ∧ source.rtakeWhile isWordChar ≠ [] ∧
      target.takeWhile isWordChar ≠ [] := by
  obtain ⟨hbefore, a, link', b, tail, -, rfl, ha, hlink', hb, htail, -⟩ := h
  have hline : before ++ (a ++ (link' ++ (b ++ tail))) = source ++ (link ++ target) := by
    rw [hs]
    simp only [List.append_assoc]
  obtain ⟨hfront, hback⟩ := append_eq_of_isLink hsource hlink htarget ha hlink' hb hline
  have hsplit : before ++ a = source.rdropWhile isWordChar ++ source.rtakeWhile isWordChar := by
    rw [hfront, List.rdropWhile_append_rtakeWhile]
  have hend : EndsOutside isWordChar (source.rdropWhile isWordChar) :=
    endsOutside_reverse.mpr (startsOutside_dropWhile _ _)
  have hword : AllIn isWordChar (source.rtakeWhile isWordChar) :=
    fun _ hc => List.mem_rtakeWhile_imp hc
  obtain ⟨hbefore', ha'⟩ := append_inj_of_endsOutside hbefore ha.2 hend hword hsplit
  have hb' : target.takeWhile isWordChar = b := by
    rw [← hback]
    exact takeWhile_append_eq hb.2 htail
  exact ⟨hbefore', ha' ▸ ha.1, hb' ▸ hb.1⟩

/-- If both words have something to read next to the arrow, the line says a transition between
that. -/
lemma says_between (hsource : IsWideWord source) (hlink : IsLink link) (htarget : IsWideWord target)
    (ha : source.rtakeWhile isWordChar ≠ []) (hb : target.takeWhile isWordChar ≠ []) :
    Says (source ++ (link ++ target)) (.transition (source.rtakeWhile isWordChar)
      (target.takeWhile isWordChar) (unlabelledEvent (target.takeWhile isWordChar))) := by
  have hplace : TransitionPlace (source.rdropWhile isWordChar)
      (source.rtakeWhile isWordChar ++ link ++ target.takeWhile isWordChar ++
        target.dropWhile isWordChar) (.transition (source.rtakeWhile isWordChar)
          (target.takeWhile isWordChar) (unlabelledEvent (target.takeWhile isWordChar))) := by
    have hcolon : ':' ∉ target.dropWhile isWordChar := by
      intro h
      exact htarget.2.not_mem (by decide +kernel) (List.dropWhile_suffix _ |>.subset h)
    refine ⟨endsOutside_reverse.mpr (startsOutside_dropWhile _ _), _, link, _, _, _, rfl,
      ⟨ha, fun _ hc => List.mem_rtakeWhile_imp hc⟩, hlink, ⟨hb, allIn_takeWhile _ _⟩,
      startsOutside_dropWhile _ _, .unlabelled ?_, rfl⟩
    intro blanks label htail
    rw [htail] at hcolon
    exact absurd (List.mem_append_right blanks List.mem_cons_self) hcolon
  refine .transition (not_contains_initialPlace_or_finalPlace hsource hlink htarget).1
    ⟨_, _, ?_, hplace, ?_⟩
  · rw [List.append_assoc, List.takeWhile_append_dropWhile, List.append_assoc,
      ← List.append_assoc (source.rdropWhile isWordChar), List.rdropWhile_append_rtakeWhile]
  · intro before rest st hs hlt h
    rw [(h.eq_of_between hsource hlink htarget hs).1] at hlt
    exact absurd hlt (lt_irrefl _)

/-- In a text of two parts, two characters in a row of which the first is not in the class of the
first part and the second not in the class of the second part are nowhere. -/
lemma not_pair_sublist {p q : Char → Bool} {u v : Text} {x y : Char} (hu : AllIn p u)
    (hv : AllIn q v) (hx : p x = false) (hy : q y = false) : ¬ [x, y].Sublist (u ++ v) := by
  intro h
  obtain ⟨front, rest, hpair, hfront, hrest⟩ := List.sublist_append_iff.mp h
  cases front with
  | nil =>
    have hmem : y ∈ v := hrest.subset (by rw [List.nil_append] at hpair; simp [← hpair])
    rw [hv y hmem] at hy
    exact absurd hy (by decide)
  | cons z front =>
    obtain ⟨rfl, -⟩ := List.cons.inj hpair
    rw [hu x (hfront.subset List.mem_cons_self)] at hx
    exact absurd hx (by decide)

/-- Between two words there is no declaration: no blank is in front of a word unless an arrow is
in front of the blank. -/
lemma not_contains_declarationPlace_between (hsource : IsWideWord source) (hlink : IsLink link)
    (htarget : IsWideWord target) : ¬ Contains DeclarationPlace (source ++ (link ++ target)) := by
  rintro ⟨before, rest, st, hs, gap, lead, name, tail, rfl, hgap, hblank, hlead, hname, -, -⟩
  have hquote : '"' ∉ source ++ (link ++ target) := by
    have hwide : isWideWordChar '"' = false := by decide +kernel
    have hlink' : '"' ∉ link := hlink.not_mem (by decide) (by decide)
    simp [hsource.2.not_mem hwide, hlink', htarget.2.not_mem hwide]
  have hnolead : lead = [] := by
    rcases hlead with hnil | ⟨label, gap₁, gap₂, rfl, -⟩
    · exact hnil
    · rw [hs] at hquote
      exact absurd (by simp) hquote
  subst hnolead
  obtain ⟨l, r, rfl, hl, hr⟩ := hlink
  have hpart : declares ++ (gap ++ name) <:+: (source ++ l ++ ['-', '-']) ++ '>' :: (r ++ target) :=
    ⟨before, tail, by simpa [arrow] using hs.symm⟩
  have hhead : '>' ∉ declares ++ (gap ++ name) := by
    have hgap' : '>' ∉ gap := hblank.not_mem (by decide)
    have hname' : '>' ∉ name := hname.2.not_mem (by decide)
    have hdeclares : '>' ∉ declares := by decide
    simp [hdeclares, hgap', hname']
  obtain ⟨g, hg⟩ := List.exists_mem_of_ne_nil gap hgap
  obtain ⟨w, hw⟩ := List.exists_mem_of_ne_nil name hname.1
  have hg' : isWideWordChar g = false := isWideWordChar_eq_false_of_isAsciiBlank (hblank g hg)
  have hw' : isWideWordChar w = true := isWideWordChar_of_isWordChar (hname.2 w hw)
  have hgap₁ : [g].Sublist gap := List.singleton_sublist.mpr hg
  have hname₁ : [w].Sublist name := List.singleton_sublist.mpr hw
  have hnowide : ∀ {x : Text}, AllIn isAsciiBlank x → AllIn (fun c => !isWideWordChar c) x := by
    intro x hx c hc
    have hc' := isWideWordChar_eq_false_of_isAsciiBlank (hx c hc)
    simp [hc']
  rcases infix_of_infix_append_cons hhead hpart with hfront | hback
  · -- In front of the head there are only blanks and hyphens behind a blank.
    have hpair : [g, w].Sublist (source ++ (l ++ ['-', '-'])) := by
      rw [← List.append_assoc]
      exact ((hgap₁.append hname₁).trans (List.sublist_append_right _ _)).trans hfront.sublist
    have hhyphens : AllIn (fun c => !isWideWordChar c) ['-', '-'] := by decide +kernel
    have hbehind : AllIn (fun c => !isWideWordChar c) (l ++ ['-', '-']) :=
      allIn_append.mpr ⟨hnowide hl, hhyphens⟩
    exact not_pair_sublist hsource.2 hbehind hg' (by simp [hw']) hpair
  · -- Behind the head there are only word characters behind a word character.
    have hpair : ['e', g].Sublist (r ++ target) := by
      have he : ['e'].Sublist declares := by decide
      have hrest : [g].Sublist (gap ++ name) := hgap₁.trans (List.sublist_append_left _ _)
      exact (he.append hrest).trans hback.sublist
    exact not_pair_sublist (hnowide hr) htarget.2 (by decide) hg' hpair

/-- Of a transition between two words of any script, the line says as much as there is in ASCII next
to the arrow, and nothing if on one side there is nothing. -/
theorem ofLine?_between (hsource : IsWideWord source) (hlink : IsLink link)
    (htarget : IsWideWord target) : ofLine? (source ++ (link ++ target)) =
      between? (source.rtakeWhile isWordChar) (target.takeWhile isWordChar) := by
  have htrimmed : Trimmed (source ++ (link ++ target)) := by
    constructor
    · exact (startsOutside_append_of_ne_nil hsource.1).mpr hsource.trimmed.1
    · rw [← List.append_assoc]
      exact (endsOutside_append_of_ne_nil htarget.1).mpr htarget.trimmed.2
  have hread : ofLine? (source ++ (link ++ target)) = ofTrimmed? (source ++ (link ++ target)) := by
    rw [ofLine?_eq_ofTrimmed?, trim_eq_self htrimmed, if_neg]
    obtain ⟨c, rest, rfl⟩ := List.exists_cons_of_ne_nil hsource.1
    have hc : isWideWordChar c = true := hsource.2 c List.mem_cons_self
    have hcomment : c ≠ '%' := by
      rintro rfl
      exact absurd hc (by decide +kernel)
    simp [hcomment]
  rw [hread, between?]
  split
  · next hempty =>
    rw [Option.eq_none_iff_forall_ne_some]
    intro st hst
    obtain ⟨hinitial, hfinal⟩ := not_contains_initialPlace_or_finalPlace hsource hlink htarget
    cases ofTrimmed?_eq_some_iff.mp hst with
    | initial h => exact hinitial h.contains
    | transition _ h =>
      obtain ⟨before, rest, st', hs, h⟩ := h.contains
      obtain ⟨-, ha, hb⟩ := h.eq_of_between hsource hlink htarget hs
      exact hempty.elim ha hb
    | final _ _ h => exact hfinal h.contains
    | declaration _ _ _ h =>
      exact not_contains_declarationPlace_between hsource hlink htarget h.contains
  · next hboth =>
    obtain ⟨ha, hb⟩ := not_or.mp hboth
    exact ofTrimmed?_eq_some_iff.mpr (says_between hsource hlink htarget ha hb)

example : ofLine? "Start --> Café".toList =
    some (.transition "Start".toList "Caf".toList "TO_CAF".toList) := by decide +kernel

end Statement

/-! ## Names and words -/

namespace Machine

/-- The states of a diagram are the names that are taken from it.  Each is a maximal run of ASCII
word characters in its place, and a whole word of the text just if no word character of any script
is on its open side.  A line with an arrow between two words registers what the words have in ASCII
next to the arrow, if both have something. -/
theorem names_ofDiagram_taken (d : Text) :
    (∀ name, name ∈ (ofDiagram d).states.names ↔ ∃ c, TakenFrom d c ∧ c.name = name) ∧
    (∀ c, TakenFrom d c → c.text = d ∧ IsMaximalRun isWordChar c.before c.name c.after ∧
      (IsMaximalRun isWideWordChar c.before c.name c.after ↔ c.OpenOutside isWideWordChar)) ∧
    ∀ source link target, IsWideWord source → Statement.IsLink link → IsWideWord target →
      Statement.ofLine? (source ++ (link ++ target)) =
        Statement.between? (source.rtakeWhile isWordChar) (target.takeWhile isWordChar) := by
  refine ⟨fun name => mem_names_ofDiagram_iff_taken, ?_, ?_⟩
  · intro c h
    have hcut := h.cutFrom
    exact ⟨hcut.text_eq, hcut.isMaximalRun, hcut.isMaximalRun_wide_iff⟩
  · intro source link target hsource hlink htarget
    exact Statement.ofLine?_between hsource hlink htarget

/-- The end of a word of another script is registered, although no word of the text is this. -/
theorem names_ofDiagram_fragment :
    let d := "élan --> Done: GO\n[*] --> Ready".toList
    let name := "lan".toList
    (ofDiagram d).states.names = [name, "Done".toList, "Ready".toList] ∧
      ∀ before after, d = before ++ (name ++ after) →
        ¬ IsMaximalRun isWideWordChar before name after := by
  intro d name
  have hnames : (ofDiagram d).states.names = [name, "Done".toList, "Ready".toList] := by
    decide +kernel
  refine ⟨hnames, ?_⟩
  intro before after hd hrun
  have hstart : d = ['é'] ++ 'l' :: "an --> Done: GO\n[*] --> Ready".toList := by decide +kernel
  have hname : name = 'l' :: "an".toList := by decide +kernel
  have hcut : ['é'] ++ 'l' :: "an --> Done: GO\n[*] --> Ready".toList =
      before ++ 'l' :: ("an".toList ++ after) := by
    rw [← hstart, hd, hname, List.cons_append]
  obtain ⟨rfl, -⟩ := (List.append_cons_inj_of_notMem (by decide) (by decide)).mp hcut
  have hstarts : EndsOutside isWideWordChar ['é'] := hrun.starts
  exact absurd hstarts (by decide +kernel)

end Machine

end Statechart
