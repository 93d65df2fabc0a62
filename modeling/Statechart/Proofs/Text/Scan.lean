import Mathlib.Data.List.Basic
import Mathlib.Data.List.TakeWhile
import Statechart.Text.Blank

/-!
# What the readers of texts find

The readers of `Text` are functions on what is left of a text.  Here each of them is described by
what it finds: `skipAsciiBlanks`, `word?`, `trimStart` and `trim` cut a text where a run of one
class of characters ends (`AllIn`, `StartsOutside`, `EndsOutside`), `cut?` and `pieces` cut it at a
separator, and `leftmost` finds the first place of a text at which its recogniser succeeds.

A place is given by the text before it and the text after it, and a property of places may look
at both.  `AtLeftmost P s a` says that `a` belongs to the first place of `s` with the property `P`.
-/

namespace Statechart.Text

/-! ## Classes of characters -/

/-- Every character of the text belongs to the class. -/
def AllIn (p : Char → Bool) (s : Text) : Prop := ∀ c ∈ s, p c = true

/-- The text does not start with a character of the class. -/
def StartsOutside (p : Char → Bool) (s : Text) : Prop := ∀ c ∈ s.head?, p c = false

/-- The text does not end with a character of the class. -/
def EndsOutside (p : Char → Bool) (s : Text) : Prop := ∀ c ∈ s.getLast?, p c = false

/-- A word is a text of one or more word characters. -/
def IsWord (s : Text) : Prop := s ≠ [] ∧ AllIn isWordChar s

variable {p : Char → Bool} {s t : Text}

instance : Decidable (AllIn p s) := decidable_of_iff (s.all p = true) List.all_eq_true

instance : Decidable (StartsOutside p s) :=
  decidable_of_iff (s.head?.all (fun c => !p c) = true) (by cases s <;> simp [StartsOutside])

instance : Decidable (EndsOutside p s) :=
  decidable_of_iff (StartsOutside p s.reverse) (by simp [StartsOutside, EndsOutside])

instance : Decidable (IsWord s) := inferInstanceAs (Decidable (_ ∧ _))

@[simp] lemma allIn_nil : AllIn p [] := by simp [AllIn]

@[simp] lemma allIn_cons {c : Char} : AllIn p (c :: s) ↔ p c = true ∧ AllIn p s := by
  simp [AllIn]

lemma allIn_singleton {c : Char} : AllIn p [c] ↔ p c = true := by simp

@[simp] lemma allIn_append : AllIn p (s ++ t) ↔ AllIn p s ∧ AllIn p t := by
  simp only [AllIn, List.mem_append, or_imp, forall_and]

@[simp] lemma allIn_reverse : AllIn p s.reverse ↔ AllIn p s := by simp [AllIn]

/-- A text of one class has no other characters. -/
lemma AllIn.not_mem {c : Char} (h : AllIn p s) (hc : p c = false) : c ∉ s := by
  intro hmem
  rw [h c hmem] at hc
  exact absurd hc (by decide)

@[simp] lemma startsOutside_nil : StartsOutside p [] := by simp [StartsOutside]

@[simp] lemma startsOutside_cons {c : Char} : StartsOutside p (c :: s) ↔ p c = false := by
  simp [StartsOutside]

@[simp] lemma endsOutside_nil : EndsOutside p [] := by simp [EndsOutside]

@[simp] lemma startsOutside_reverse : StartsOutside p s.reverse ↔ EndsOutside p s := by
  simp [StartsOutside, EndsOutside]

@[simp] lemma endsOutside_reverse : EndsOutside p s.reverse ↔ StartsOutside p s := by
  simp [StartsOutside, EndsOutside]

lemma endsOutside_append_of_ne_nil (ht : t ≠ []) : EndsOutside p (s ++ t) ↔ EndsOutside p t := by
  unfold EndsOutside
  rw [List.getLast?_append_of_ne_nil _ ht]

lemma startsOutside_append_of_ne_nil (hs : s ≠ []) :
    StartsOutside p (s ++ t) ↔ StartsOutside p s := by
  obtain ⟨c, s, rfl⟩ := List.exists_cons_of_ne_nil hs
  rw [List.cons_append, startsOutside_cons, startsOutside_cons]

/-- In front of a text that starts outside a class there are no characters of the class. -/
lemma eq_nil_of_allIn_of_startsOutside_append (h : AllIn p s) (h' : StartsOutside p (s ++ t)) :
    s = [] := by
  cases s with
  | nil => rfl
  | cons c s =>
    rw [List.cons_append, startsOutside_cons, (allIn_cons.mp h).1] at h'
    exact absurd h' (by decide)

lemma not_allIn_of_endsOutside (hs : s ≠ []) (h : EndsOutside p s) : ¬ AllIn p s := by
  intro hall
  have hlast := hall _ (List.getLast_mem hs)
  rw [h _ (List.getLast?_eq_some_getLast hs)] at hlast
  exact absurd hlast (by decide)

lemma allIn_takeWhile (p : Char → Bool) (s : Text) : AllIn p (s.takeWhile p) :=
  fun _ hc => List.mem_takeWhile_imp hc

lemma startsOutside_dropWhile (p : Char → Bool) (s : Text) : StartsOutside p (s.dropWhile p) := by
  intro c hc
  have h := List.head?_dropWhile_not p s
  rw [Option.mem_def.mp hc] at h
  exact h

lemma takeWhile_append_eq (hs : AllIn p s) (ht : StartsOutside p t) :
    (s ++ t).takeWhile p = s := by
  rw [List.takeWhile_append_of_pos hs]
  cases t with
  | nil => simp
  | cons c t => simp [startsOutside_cons.mp ht]

/-- A run of a class in front of a text that starts outside is what `dropWhile` drops. -/
lemma dropWhile_append_eq (hs : AllIn p s) (ht : StartsOutside p t) :
    (s ++ t).dropWhile p = t := by
  rw [List.dropWhile_append_of_pos hs]
  cases t with
  | nil => simp
  | cons c t => simp [startsOutside_cons.mp ht]

/-- There is one way to split a text into a run of a class and a text that starts outside. -/
lemma append_inj_of_startsOutside {s' t' : Text} (hs : AllIn p s) (ht : StartsOutside p t)
    (hs' : AllIn p s') (ht' : StartsOutside p t') (h : s ++ t = s' ++ t') : s = s' ∧ t = t' := by
  constructor
  · rw [← takeWhile_append_eq hs ht, h, takeWhile_append_eq hs' ht']
  · rw [← dropWhile_append_eq hs ht, h, dropWhile_append_eq hs' ht']

/-- There is one way to split a text into a text that ends outside a class and a run of it. -/
lemma append_inj_of_endsOutside {s' t' : Text} (hs : EndsOutside p s) (ht : AllIn p t)
    (hs' : EndsOutside p s') (ht' : AllIn p t') (h : s ++ t = s' ++ t') : s = s' ∧ t = t' := by
  have hreverse : t.reverse ++ s.reverse = t'.reverse ++ s'.reverse := by
    rw [← List.reverse_append, h, List.reverse_append]
  obtain ⟨hrun, hrest⟩ := append_inj_of_startsOutside (allIn_reverse.mpr ht)
    (startsOutside_reverse.mpr hs) (allIn_reverse.mpr ht') (startsOutside_reverse.mpr hs') hreverse
  exact ⟨List.reverse_injective hrest, List.reverse_injective hrun⟩

/-- A place of a text at which no character of the class stands is behind the characters of the
class in front of the text. -/
lemma exists_behind {a x : Text} (ha : AllIn p a) (ht : StartsOutside p t)
    (h : a ++ s = x ++ t) : ∃ y, x = a ++ y ∧ s = y ++ t := by
  rcases List.append_eq_append_iff.mp h with ⟨y, hx, hs⟩ | ⟨e, hsplit, hrest⟩
  · exact ⟨y, hx, hs⟩
  · rw [hsplit, allIn_append] at ha
    have he : e = [] := eq_nil_of_allIn_of_startsOutside_append ha.2 (hrest ▸ ht)
    rw [he, List.append_nil] at hsplit
    rw [he, List.nil_append] at hrest
    exact ⟨[], by rw [List.append_nil, hsplit], hrest.symm⟩

/-- A part of a text that starts and ends outside a class lies between the characters of the class
at both ends of the text. -/
lemma exists_between {a b x part y : Text} (ha : AllIn p a) (hb : AllIn p b) (hne : part ≠ [])
    (hstart : StartsOutside p part) (hend : EndsOutside p part)
    (h : a ++ (s ++ b) = x ++ (part ++ y)) : ∃ x' y', s = x' ++ (part ++ y') := by
  obtain ⟨x', -, hs⟩ := exists_behind ha ((startsOutside_append_of_ne_nil hne).mpr hstart) h
  rw [← List.append_assoc] at hs
  rcases List.append_eq_append_iff.mp hs with ⟨e, hpart, hrest⟩ | ⟨e, hs', -⟩
  · have he : e = [] := by
      by_contra hne'
      rw [hrest, allIn_append] at hb
      have hlast : EndsOutside p (x' ++ part) := (endsOutside_append_of_ne_nil hne).mpr hend
      rw [hpart, endsOutside_append_of_ne_nil hne'] at hlast
      exact not_allIn_of_endsOutside hne' hlast hb.1
    rw [he, List.append_nil] at hpart
    exact ⟨x', [], by rw [List.append_nil, hpart]⟩
  · exact ⟨x', e, by rw [hs', List.append_assoc]⟩

/-- `dropWhile` drops exactly a run of the class. -/
lemma dropWhile_eq_iff :
    s.dropWhile p = t ↔ ∃ w, s = w ++ t ∧ AllIn p w ∧ StartsOutside p t := by
  constructor
  · rintro rfl
    exact ⟨s.takeWhile p, List.takeWhile_append_dropWhile.symm, allIn_takeWhile p s,
      startsOutside_dropWhile p s⟩
  · rintro ⟨w, rfl, hw, ht⟩
    exact dropWhile_append_eq hw ht

/-- A text that leaves a class has a first part in the class and a rest that does not. -/
lemma exists_append_of_not_allIn (h : ¬ AllIn p s) :
    ∃ w t, s = w ++ t ∧ AllIn p w ∧ t ≠ [] ∧ StartsOutside p t := by
  obtain ⟨w, hs, hw, hstart⟩ := dropWhile_eq_iff.mp (rfl : s.dropWhile p = _)
  refine ⟨w, s.dropWhile p, hs, hw, fun hnil => h ?_, hstart⟩
  rw [hs, hnil, List.append_nil]
  exact hw

/-! ## Blanks and words -/

/-- ASCII blanks are skipped as far as they go. -/
lemma skipAsciiBlanks_eq_iff :
    skipAsciiBlanks s = t ↔ ∃ b, s = b ++ t ∧ AllIn isAsciiBlank b ∧ StartsOutside isAsciiBlank t :=
  dropWhile_eq_iff

/-- The name at the start of a text is a maximal word. -/
lemma word?_eq_some_iff {w rest : Text} :
    word? s = some (w, rest) ↔ s = w ++ rest ∧ IsWord w ∧ StartsOutside isWordChar rest := by
  constructor
  · intro h
    unfold word? at h
    split at h
    · simp at h
    · next hw =>
      obtain ⟨rfl, rfl⟩ := Prod.mk.injEq .. ▸ Option.some.injEq .. ▸ h
      exact ⟨List.takeWhile_append_dropWhile.symm, ⟨hw, allIn_takeWhile _ s⟩,
        startsOutside_dropWhile _ s⟩
  · rintro ⟨rfl, ⟨hne, hw⟩, hrest⟩
    unfold word?
    rw [takeWhile_append_eq hw hrest, dropWhile_append_eq hw hrest]
    cases w with
    | nil => exact absurd rfl hne
    | cons c w => rfl

/-- Word characters lie between the digit zero and the letter z. -/
lemma toNat_le_of_isWordChar {c : Char} (h : isWordChar c = true) :
    48 ≤ c.toNat ∧ c.toNat ≤ 122 := by
  rw [isWordChar, Bool.or_eq_true, beq_iff_eq] at h
  have hletter : c.isAlphanum = true →
      ((65 ≤ c.toNat ∧ c.toNat ≤ 90) ∨ (97 ≤ c.toNat ∧ c.toNat ≤ 122)) ∨
        (48 ≤ c.toNat ∧ c.toNat ≤ 57) := by
    intro hc
    change (decide _ || (decide _ && decide _) || (decide _ && decide _)) = true at hc
    simp only [Bool.or_eq_true, Bool.and_eq_true, decide_eq_true_eq] at hc
    exact hc
  rcases h with h | rfl
  · have := hletter h
    omega
  · decide

lemma isBlank_eq_false_of_isWordChar {c : Char} (h : isWordChar c = true) : isBlank c = false := by
  have hn := toNat_le_of_isWordChar h
  simp only [isBlank, Bool.or_eq_false_iff, Bool.and_eq_false_iff, decide_eq_false_iff_not,
    beq_eq_false_iff_ne]
  omega

lemma isAsciiBlank_eq_false_of_isBlank {c : Char} (h : isBlank c = false) :
    isAsciiBlank c = false := by
  rw [← Bool.not_eq_true]
  intro hblank
  rw [isBlank_of_isAsciiBlank hblank] at h
  exact absurd h (by decide)

/-! ## Trimming -/

/-- A text is trimmed if it neither starts nor ends with a blank. -/
def Trimmed (s : Text) : Prop := StartsOutside isBlank s ∧ EndsOutside isBlank s

instance : Decidable (Trimmed s) := inferInstanceAs (Decidable (_ ∧ _))

/-- A trimmed text stays as it is. -/
lemma trim_eq_self (h : Trimmed s) : trim s = s := by
  have hstart : trimStart s = s := dropWhile_eq_iff.mpr ⟨[], by simp, by simp, h.1⟩
  unfold trim
  rw [hstart]
  unfold trimEnd
  rw [dropWhile_eq_iff.mpr ⟨[], by simp, by simp, startsOutside_reverse.mpr h.2⟩,
    List.reverse_reverse]

/-- Cutting off the blanks at the end takes nothing else away. -/
lemma exists_trimEnd_append (s : Text) :
    ∃ b, s = trimEnd s ++ b ∧ AllIn isBlank b ∧ EndsOutside isBlank (trimEnd s) := by
  obtain ⟨b, hs, hb, hstart⟩ := dropWhile_eq_iff.mp (rfl : s.reverse.dropWhile isBlank = _)
  refine ⟨b.reverse, ?_, allIn_reverse.mpr hb, endsOutside_reverse.mpr hstart⟩
  unfold trimEnd
  rw [← List.reverse_append, ← hs, List.reverse_reverse]

/-- Trimming takes blanks away at both ends, and leaves a trimmed text. -/
lemma exists_append_trim_append (s : Text) :
    ∃ a b, s = a ++ trim s ++ b ∧ AllIn isBlank a ∧ AllIn isBlank b ∧ Trimmed (trim s) := by
  obtain ⟨a, hs, ha, hstart⟩ := dropWhile_eq_iff.mp (rfl : s.dropWhile isBlank = _)
  obtain ⟨b, hb, hblank, hend⟩ := exists_trimEnd_append (s.dropWhile isBlank)
  have htrim : trimEnd (s.dropWhile isBlank) = trim s := rfl
  rw [htrim] at hb hend
  refine ⟨a, b, ?_, ha, hblank, ?_, hend⟩
  · rw [List.append_assoc, ← hb, ← hs]
  · intro c hc
    apply hstart c
    rw [hb, List.head?_append, Option.mem_def.mp hc]
    rfl

/-- Trimming removes blanks around a trimmed text and nothing else. -/
lemma trim_append_append {a b : Text} (ha : AllIn isBlank a) (hs : Trimmed s)
    (hb : AllIn isBlank b) : trim (a ++ (s ++ b)) = s := by
  have hend : (s ++ b).reverse.dropWhile isBlank = s.reverse := by
    rw [List.reverse_append]
    exact dropWhile_append_eq (allIn_reverse.mpr hb) (startsOutside_reverse.mpr hs.2)
  by_cases hne : s = []
  · have hstart : trimStart (a ++ (s ++ b)) = [] := by
      unfold trimStart
      rw [hne, List.nil_append, List.dropWhile_eq_nil_iff]
      exact allIn_append.mpr ⟨ha, hb⟩
    unfold trim
    rw [hstart, hne]
    rfl
  · have hstart : trimStart (a ++ (s ++ b)) = s ++ b :=
      dropWhile_append_eq ha ((startsOutside_append_of_ne_nil hne).mpr hs.1)
    unfold trim
    rw [hstart, trimEnd, hend, List.reverse_reverse]

/-- Blanks at the end of a text do not matter to trimming. -/
lemma trim_append {b : Text} (hb : AllIn isBlank b) (s : Text) : trim (s ++ b) = trim s := by
  obtain ⟨a, e, hs, ha, he, htrimmed⟩ := exists_append_trim_append s
  conv_lhs => rw [hs]
  rw [List.append_assoc, List.append_assoc,
    trim_append_append ha htrimmed (allIn_append.mpr ⟨he, hb⟩)]

/-- Blanks at the start of a text do not matter to trimming. -/
lemma trim_blanks_append {b : Text} (hb : AllIn isBlank b) (s : Text) : trim (b ++ s) = trim s := by
  unfold trim trimStart
  rw [List.dropWhile_append_of_pos hb]

/-- Of a text of blanks nothing is left. -/
lemma trim_eq_nil_iff : trim s = [] ↔ AllIn isBlank s := by
  obtain ⟨a, b, hs, ha, hb, -⟩ := exists_append_trim_append s
  constructor
  · intro hnil
    rw [hnil, List.append_nil] at hs
    exact hs ▸ allIn_append.mpr ⟨ha, hb⟩
  · intro hall
    have hempty : Trimmed [] := ⟨startsOutside_nil, endsOutside_nil⟩
    simpa using trim_append_append hall hempty allIn_nil

lemma trimmed_trim (s : Text) : Trimmed (trim s) := by
  obtain ⟨a, b, -, -, -, h⟩ := exists_append_trim_append s
  exact h

lemma mem_of_mem_trim {c : Char} (h : c ∈ trim s) : c ∈ s := by
  obtain ⟨a, b, hs, -, -, -⟩ := exists_append_trim_append s
  rw [hs]
  simp [h]

/-! ## Cutting at a separator -/

/-- A text is cut at its first separator. -/
lemma cut?_eq_some_iff {sep : Char} {a b : Text} :
    cut? sep s = some (a, b) ↔ s = a ++ sep :: b ∧ sep ∉ a := by
  induction s generalizing a with
  | nil => simp [cut?]
  | cons c s ih =>
    by_cases hc : c = sep
    · subst hc
      cases a with
      | nil => simp [cut?, eq_comm]
      | cons d a => simp +contextual [cut?]
    · cases a with
      | nil => simp [cut?, hc]
      | cons d a =>
        have key : (∃ q, cut? sep s = some q ∧ (c :: q.1, q.2) = (d :: a, b)) ↔
            c = d ∧ cut? sep s = some (a, b) := by
          constructor
          · rintro ⟨⟨q, r⟩, hq, h⟩
            simp only [Prod.mk.injEq, List.cons.injEq] at h
            obtain ⟨⟨rfl, rfl⟩, rfl⟩ := h
            exact ⟨rfl, hq⟩
          · rintro ⟨rfl, hq⟩
            exact ⟨(a, b), hq, rfl⟩
        simp only [cut?, hc, if_false, Option.map_eq_some_iff, key, ih, List.cons_append,
          List.cons.injEq, List.mem_cons, not_or]
        constructor
        · rintro ⟨rfl, rfl, hmem⟩
          exact ⟨⟨rfl, rfl⟩, Ne.symm hc, hmem⟩
        · rintro ⟨⟨rfl, rfl⟩, -, hmem⟩
          exact ⟨rfl, rfl, hmem⟩

lemma pieces_of_not_mem {sep : Char} (h : sep ∉ s) : pieces sep s = [s] := by
  induction s with
  | nil => rfl
  | cons c s ih =>
    rw [List.mem_cons, not_or] at h
    rw [pieces, if_neg (Ne.symm h.1), ih h.2]

/-- A separator cuts the text into the pieces before it and the pieces after it. -/
lemma pieces_append {sep : Char} (s t : Text) :
    pieces sep (s ++ sep :: t) = pieces sep s ++ pieces sep t := by
  induction s with
  | nil => simp [pieces]
  | cons c s ih =>
    by_cases hc : c = sep
    · rw [List.cons_append, pieces, if_pos hc, pieces, if_pos hc, ih]
      rfl
    · obtain ⟨p, ps, hp⟩ := List.exists_cons_of_ne_nil (pieces_ne_nil sep s)
      rw [List.cons_append, pieces, if_neg hc, pieces, if_neg hc, ih, hp]
      rfl

/-- The first piece ends at the first separator. -/
lemma pieces_append_cons {sep : Char} (h : sep ∉ s) :
    pieces sep (s ++ sep :: t) = s :: pieces sep t := by
  rw [pieces_append, pieces_of_not_mem h]
  rfl

/-- What holds of texts without a separator, and of a text with one if it holds of what stands
behind the first one, holds of all texts. -/
@[elab_as_elim]
lemma separatorInduction (sep : Char) {motive : Text → Prop}
    (last : ∀ s, sep ∉ s → motive s)
    (cut : ∀ first rest, sep ∉ first → motive rest → motive (first ++ sep :: rest))
    (s : Text) : motive s := by
  by_cases hmem : sep ∈ s
  · obtain ⟨first, rest, hs, hfirst⟩ := List.eq_append_cons_of_mem hmem
    have hlt : rest.length < s.length := by
      rw [hs, List.length_append, List.length_cons]
      omega
    exact hs ▸ cut first rest hfirst (separatorInduction sep last cut rest)
  · exact last s hmem
termination_by s.length

lemma not_mem_of_mem_pieces {sep : Char} {piece : Text} (h : piece ∈ pieces sep s) :
    sep ∉ piece := by
  induction s using separatorInduction sep with
  | last s hs =>
    rw [pieces_of_not_mem hs, List.mem_singleton] at h
    exact h ▸ hs
  | cut first rest hfirst ih =>
    rw [pieces_append_cons hfirst, List.mem_cons] at h
    rcases h with rfl | h
    · exact hfirst
    · exact ih h

lemma mem_of_mem_pieces {sep c : Char} {piece : Text} (h : piece ∈ pieces sep s)
    (hc : c ∈ piece) : c ∈ s := by
  induction s using separatorInduction sep with
  | last s hs =>
    rw [pieces_of_not_mem hs, List.mem_singleton] at h
    exact h ▸ hc
  | cut first rest hfirst ih =>
    rw [pieces_append_cons hfirst, List.mem_cons] at h
    rcases h with rfl | h
    · exact List.mem_append_left _ hc
    · exact List.mem_append_right _ (List.mem_cons_of_mem sep (ih h))

/-- Pieces that are joined by a separator are found again. -/
lemma pieces_intercalate {sep : Char} {ps : List Text} (hne : ps ≠ [])
    (h : ∀ p ∈ ps, sep ∉ p) : pieces sep (List.intercalate [sep] ps) = ps := by
  induction ps with
  | nil => exact absurd rfl hne
  | cons p ps ih =>
    obtain ⟨hp, hps⟩ := List.forall_mem_cons.mp h
    cases ps with
    | nil => simpa [List.intercalate] using pieces_of_not_mem hp
    | cons q qs =>
      have hjoin : List.intercalate [sep] (p :: q :: qs) =
          p ++ sep :: List.intercalate [sep] (q :: qs) := by
        simp [List.intercalate]
      rw [hjoin, pieces_append_cons hp, ih (List.cons_ne_nil q qs) hps]

lemma not_mem_of_mem_lines {line : Text} (h : line ∈ lines s) : '\n' ∉ line :=
  not_mem_of_mem_pieces h

/-! ## The leftmost place -/

section Leftmost

variable {α : Type} {P : Text → Text → α → Prop} {a : α}

/-- Some place of the text has the property: `P` is given the text before it, the text after it and
what belongs to it. -/
def Contains (P : Text → Text → α → Prop) (s : Text) : Prop :=
  ∃ before rest a, s = before ++ rest ∧ P before rest a

/-- The first place of the text that has the property has it with `a`. -/
def AtLeftmost (P : Text → Text → α → Prop) (s : Text) (a : α) : Prop :=
  ∃ before rest, s = before ++ rest ∧ P before rest a ∧
    ∀ before' rest' b, s = before' ++ rest' → before'.length < before.length → ¬ P before' rest' b

lemma AtLeftmost.contains (h : AtLeftmost P s a) : Contains P s := by
  obtain ⟨before, rest, hs, ha, -⟩ := h
  exact ⟨before, rest, a, hs, ha⟩

/-- No place comes before the start of a text. -/
lemma atLeftmost_of_start (h : P [] s a) : AtLeftmost P s a :=
  ⟨[], s, rfl, h, fun _ _ _ _ hlt => absurd hlt (Nat.not_lt_zero _)⟩

/-- There is one first place, so if what belongs to a place is unique there, it is unique. -/
lemma AtLeftmost.unique {b : α} (hP : ∀ before rest a b, P before rest a → P before rest b → a = b)
    (ha : AtLeftmost P s a) (hb : AtLeftmost P s b) : a = b := by
  obtain ⟨before, rest, hs, hPa, hfirst⟩ := ha
  obtain ⟨before', rest', hs', hPb, hfirst'⟩ := hb
  have hlen : before.length = before'.length := by
    rcases Nat.lt_trichotomy before.length before'.length with hlt | heq | hgt
    · exact absurd hPa (hfirst' before rest a hs hlt)
    · exact heq
    · exact absurd hPb (hfirst before' rest' b hs' hgt)
  obtain ⟨rfl, rfl⟩ := List.append_inj (hs ▸ hs') hlen
  exact hP _ _ _ _ hPa hPb

lemma atLeftmost_nil_iff : AtLeftmost P [] a ↔ P [] [] a := by
  constructor
  · rintro ⟨before, rest, hs, ha, -⟩
    obtain ⟨rfl, rfl⟩ := List.nil_eq_append_iff.mp hs
    exact ha
  · intro h
    exact ⟨[], [], rfl, h, fun _ _ _ _ hlt => absurd hlt (Nat.not_lt_zero _)⟩

/-- The first place is the start of the text, or else the first place after its first character. -/
lemma atLeftmost_cons_iff {c : Char} :
    AtLeftmost P (c :: s) a ↔
      P [] (c :: s) a ∨
        (∀ b, ¬ P [] (c :: s) b) ∧ AtLeftmost (fun before => P (c :: before)) s a := by
  constructor
  · rintro ⟨before, rest, hs, ha, hfirst⟩
    cases before with
    | nil =>
      rw [List.nil_append] at hs
      exact .inl (hs ▸ ha)
    | cons d before =>
      obtain ⟨rfl, rfl⟩ := List.cons.inj hs
      refine .inr ⟨fun b => hfirst [] _ b rfl (by simp), before, rest, rfl, ha, ?_⟩
      intro before' rest' b hs' hlt
      exact hfirst (c :: before') rest' b (by rw [hs', List.cons_append]) (by simpa using hlt)
  · rintro (h | ⟨hnone, before, rest, rfl, ha, hfirst⟩)
    · exact ⟨[], c :: s, rfl, h, fun _ _ _ _ hlt => absurd hlt (Nat.not_lt_zero _)⟩
    · refine ⟨c :: before, rest, rfl, ha, ?_⟩
      intro before' rest' b hs' hlt
      cases before' with
      | nil =>
        rw [List.nil_append] at hs'
        exact hs' ▸ hnone b
      | cons d before' =>
        obtain ⟨rfl, htail⟩ := List.cons.inj hs'
        exact hfirst before' rest' b htail (by simpa using hlt)

/-- A text with a place that has the property has a first one. -/
lemma Contains.exists_atLeftmost (h : Contains P s) : ∃ a, AtLeftmost P s a := by
  induction s generalizing P with
  | nil =>
    obtain ⟨before, rest, a, hs, ha⟩ := h
    obtain ⟨rfl, rfl⟩ := List.nil_eq_append_iff.mp hs
    exact ⟨a, atLeftmost_nil_iff.mpr ha⟩
  | cons c s ih =>
    by_cases hhere : ∃ b, P [] (c :: s) b
    · obtain ⟨b, hb⟩ := hhere
      exact ⟨b, atLeftmost_cons_iff.mpr (.inl hb)⟩
    · obtain ⟨before, rest, a, hs, ha⟩ := h
      cases before with
      | nil =>
        rw [List.nil_append] at hs
        exact absurd ⟨a, hs ▸ ha⟩ hhere
      | cons d before =>
        obtain ⟨rfl, rfl⟩ := List.cons.inj hs
        obtain ⟨b, hb⟩ := ih (P := fun before => P (c :: before)) ⟨before, rest, a, rfl, ha⟩
        exact ⟨b, atLeftmost_cons_iff.mpr (.inr ⟨not_exists.mp hhere, hb⟩)⟩

/-- Equivalent properties of places have the same first places. -/
lemma atLeftmost_congr {Q : Text → Text → α → Prop}
    (h : ∀ before rest b, P before rest b ↔ Q before rest b) :
    AtLeftmost P s a ↔ AtLeftmost Q s a := by
  have hPQ : P = Q := by
    funext before rest b
    exact propext (h before rest b)
  rw [hPQ]

/-- `leftmost` finds the first place at which its recogniser succeeds. -/
lemma leftmost_eq_some_iff {f : Text → Option α} :
    leftmost f s = some a ↔ AtLeftmost (fun _ rest b => f rest = some b) s a := by
  induction s with
  | nil => rw [leftmost, atLeftmost_nil_iff]
  | cons c s ih =>
    rw [leftmost, atLeftmost_cons_iff]
    cases hf : f (c :: s) with
    | some b => simp
    | none => simpa using ih

/-- `leftmost` finds nothing if its recogniser fails everywhere. -/
lemma leftmost_eq_none_iff {f : Text → Option α} :
    leftmost f s = none ↔ ∀ before rest, s = before ++ rest → f rest = none := by
  rw [Option.eq_none_iff_forall_ne_some]
  constructor
  · intro h before rest hs
    by_contra hne
    obtain ⟨b, hb⟩ := Option.ne_none_iff_exists'.mp hne
    have hcontains : Contains (fun _ rest b => f rest = some b) s := ⟨before, rest, b, hs, hb⟩
    obtain ⟨a, ha⟩ := hcontains.exists_atLeftmost
    exact h a (leftmost_eq_some_iff.mpr ha)
  · intro h a ha
    obtain ⟨before, rest, hs, hb, -⟩ := leftmost_eq_some_iff.mp ha
    rw [h before rest hs] at hb
    exact absurd hb (by simp)

/-- A function applied to what is found may as well be applied by the recogniser. -/
lemma map_leftmost {β : Type} (f : Text → Option α) (g : α → β) (s : Text) :
    (leftmost f s).map g = leftmost (fun rest => (f rest).map g) s := by
  induction s with
  | nil => rfl
  | cons c s ih =>
    rw [leftmost, leftmost]
    cases f (c :: s) with
    | none => exact ih
    | some a => rfl

/-- A result that belongs to the first place is missing exactly if there is no place. -/
lemma eq_none_iff_not_contains {found : Option α} (h : ∀ a, found = some a ↔ AtLeftmost P s a) :
    found = none ↔ ¬ Contains P s := by
  constructor
  · intro hnone hcontains
    obtain ⟨a, ha⟩ := hcontains.exists_atLeftmost
    rw [← h, hnone] at ha
    exact absurd ha (by simp)
  · intro hno
    rw [Option.eq_none_iff_forall_ne_some]
    intro a ha
    exact hno ((h a).mp ha).contains

lemma occurs_eq_true_iff {part : Text} :
    occurs part s = true ↔ ∃ before rest, s = before ++ (part ++ rest) := by
  unfold occurs
  rw [Option.isSome_iff_ne_none, ne_eq, leftmost_eq_none_iff]
  constructor
  · intro h
    by_contra hno
    apply h
    intro before rest hs
    rw [Option.eq_none_iff_forall_ne_some]
    intro tail htail
    exact hno ⟨before, tail, by rw [hs, past?_eq_some_iff.mp htail]⟩
  · rintro ⟨before, rest, hs⟩ hnone
    have h := hnone before (part ++ rest) hs
    rw [past?_append] at h
    exact absurd h (by simp)

lemma occurs_eq_false_iff {part : Text} :
    occurs part s = false ↔ ∀ before rest, s ≠ before ++ (part ++ rest) := by
  rw [← Bool.not_eq_true, occurs_eq_true_iff]
  simp only [not_exists]

end Leftmost

end Statechart.Text
