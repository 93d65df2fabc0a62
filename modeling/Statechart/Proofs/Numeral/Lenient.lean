import Mathlib.Data.List.Basic
import Statechart.Numeral.Lenient
import Statechart.Proofs.Text.Scan

/-!
# The characters of integers

Every notation that `Numeral.lenient` reads is made of ASCII digits, signs, points, underscores and
blanks (`allIn_of_lenient_eq_ok`).  So a text with a letter in it is no integer.
-/

namespace Statechart.Numeral

open Text

/-- A character that may stand in the notation of an integer. -/
def isNumberChar (c : Char) : Bool := Digits.isAscii c || "+-._".toList.contains c || isBlank c

variable {s t : Text} {c : Char}

lemma isNumberChar_of_isAscii (h : Digits.isAscii c = true) : isNumberChar c = true := by
  simp [isNumberChar, h]

lemma isNumberChar_of_isBlank (h : isBlank c = true) : isNumberChar c = true := by
  simp [isNumberChar, h]

/-! ## Plain notation -/

/-- Digits that are read as a number are nothing but digits. -/
lemma allIn_of_plainDigits_eq_ok {n : Nat} (h : plainDigits s = .ok n) : AllIn isNumberChar s := by
  -- the digits at the start are as long as the whole text
  have hlength : s.length ≤ (s.takeWhile Digits.isAscii).length := by
    unfold plainDigits at h
    split at h
    · exact absurd h (by simp)
    · exact absurd h (by simp)
    · split_ifs at h with hlong hshort
      exact Nat.not_lt.mp hshort
  have hdigits : s.takeWhile Digits.isAscii = s :=
    (List.takeWhile_prefix Digits.isAscii).eq_of_length_le hlength
  intro c hc
  rw [← hdigits] at hc
  exact isNumberChar_of_isAscii (List.mem_takeWhile_imp hc)

/-- In the plain notation of an integer there is a minus sign before the digits, or nothing. -/
lemma allIn_of_plain_eq_ok {n : Int} (h : plain s = .ok n) : AllIn isNumberChar s := by
  unfold plain at h
  split at h
  · next digits =>
    cases hdigits : plainDigits digits with
    | error d => exact absurd h (by simp [hdigits, Except.map, bind, Except.bind])
    | ok m => exact allIn_cons.mpr ⟨rfl, allIn_of_plainDigits_eq_ok hdigits⟩
  · cases hdigits : plainDigits s with
    | error d => exact absurd h (by simp [hdigits, Except.map, bind, Except.bind])
    | ok m => exact allIn_of_plainDigits_eq_ok hdigits

/-! ## Ways to the plain form

Each step takes characters away that may stand in the notation of an integer. -/

/-- If what is dropped at the start has a property and so has the rest, all of the text has it. -/
lemma allIn_of_allIn_dropWhile {p q : Char → Bool} (hp : ∀ c, p c = true → q c = true)
    (h : AllIn q (s.dropWhile p)) : AllIn q s := by
  rw [← List.takeWhile_append_dropWhile (p := p) (l := s), allIn_append]
  exact ⟨fun c hc => hp c (List.mem_takeWhile_imp hc), h⟩

/-- The blanks that are trimmed are number characters. -/
lemma allIn_of_trimNumber (h : AllIn isNumberChar (trimNumber s)) : AllIn isNumberChar s := by
  have hblank (c : Char) (hc : isNumberBlank c = true) : isNumberChar c = true :=
    isNumberChar_of_isBlank (Bool.and_eq_true_iff.mp hc).1
  exact allIn_of_allIn_dropWhile hblank
    (allIn_reverse.mp (allIn_of_allIn_dropWhile hblank (allIn_reverse.mp h)))

/-- A plus sign that is dropped is a number character. -/
lemma allIn_of_dropPlus? (h : dropPlus? s = some t) (ht : AllIn isNumberChar t) :
    AllIn isNumberChar s := by
  unfold dropPlus? at h
  split at h
  · exact absurd h (by simp)
  · next rest =>
    obtain rfl := Option.some.inj h
    exact allIn_cons.mpr ⟨rfl, ht⟩
  · obtain rfl := Option.some.inj h
    exact ht

/-- The zeros and underscores that are dropped are number characters. -/
lemma allIn_of_dropZeros? {last : Char} (h : dropZeros? last s = some t)
    (ht : AllIn isNumberChar t) : AllIn isNumberChar s := by
  induction s generalizing last with
  | nil => exact allIn_nil
  | cons c s ih =>
    rw [dropZeros?] at h
    split_ifs at h with hzero hpoint hleads
    · have hc : isNumberChar c = true := by
        rcases hzero with rfl | rfl <;> rfl
      exact allIn_cons.mpr ⟨hc, ih h⟩
    · obtain rfl := Option.some.inj h
      exact (allIn_cons.mp ht).2
    · obtain rfl := Option.some.inj h
      exact ht

/-- A zero in front, with all that is dropped behind it, is made of number characters. -/
lemma allIn_of_dropLeadingZeros? (h : dropLeadingZeros? s = some t)
    (ht : AllIn isNumberChar t) : AllIn isNumberChar s := by
  unfold dropLeadingZeros? at h
  split at h
  · exact absurd h (by simp)
  · exact allIn_cons.mpr ⟨rfl, allIn_of_dropZeros? h ht⟩
  · split_ifs at h
    obtain rfl := Option.some.inj h
    exact ht

/-- A fraction that is dropped is a point with zeros behind it, which are number characters. -/
lemma allIn_of_dropZeroFraction (h : AllIn isNumberChar (dropZeroFraction s)) :
    AllIn isNumberChar s := by
  unfold dropZeroFraction at h
  split at h
  · next whole zeros hcut =>
    obtain ⟨rfl, -⟩ := cut?_eq_some_iff.mp hcut
    split_ifs at h with hzeros
    · refine allIn_append.mpr ⟨h, allIn_cons.mpr ⟨rfl, fun c hc => ?_⟩⟩
      have hzero := List.all_eq_true.mp hzeros.2 c hc
      rw [of_decide_eq_true hzero]
      rfl
    · exact h
  · exact h

/-- The underscores that are dropped are number characters. -/
lemma allIn_of_dropUnderscores (h : AllIn isNumberChar (dropUnderscores s)) :
    AllIn isNumberChar s := by
  unfold dropUnderscores at h
  split_ifs at h
  · exact h
  · intro c hc
    by_cases hscore : c = '_'
    · rw [hscore]
      rfl
    · exact h c (List.mem_filter.mpr ⟨hc, by simpa using hscore⟩)

/-- What is taken away on the way to the plain form is made of number characters. -/
lemma allIn_of_plainForm? (h : plainForm? s = some t) (ht : AllIn isNumberChar t) :
    AllIn isNumberChar s := by
  simp only [plainForm?, bind, Option.bind_eq_some_iff, pure] at h
  obtain ⟨signless, hplus, h⟩ := h
  refine allIn_of_trimNumber (allIn_of_dropPlus? hplus (allIn_of_dropZeroFraction ?_))
  split at h
  · next rest hrest =>
    obtain ⟨digits, hdigits, hform⟩ := Option.bind_eq_some_iff.mp h
    obtain rfl := Option.some.inj hform
    obtain ⟨left, hzeros, rfl⟩ := Option.map_eq_some_iff.mp hdigits
    have hleft := (allIn_cons.mp (allIn_of_dropUnderscores ht)).2
    rw [hrest]
    exact allIn_cons.mpr ⟨rfl, allIn_of_dropLeadingZeros? hzeros hleft⟩
  · obtain ⟨digits, hdigits, hform⟩ := Option.bind_eq_some_iff.mp h
    obtain rfl := Option.some.inj hform
    exact allIn_of_dropLeadingZeros? hdigits (allIn_of_dropUnderscores ht)

/-- An integer is written with number characters only. -/
theorem allIn_of_lenient_eq_ok {n : Int} (h : lenient s = .ok n) : AllIn isNumberChar s := by
  unfold lenient at h
  split at h
  · exact absurd h (by simp)
  · next form hform => exact allIn_of_plainForm? hform (allIn_of_plain_eq_ok h)

end Statechart.Numeral
