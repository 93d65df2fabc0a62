import Mathlib.Data.List.Basic
import Mathlib.Data.Nat.Basic
import Statechart.Numeral.Double
import Statechart.Proofs.Numeral.Digits

/-!
# The shape of written floating-point numbers

A finite double is written as a sign and a magnitude.  The magnitude has whole digits, of which the
first is a zero only if it is the only one, and then decimals after a point or an exponent after an
`e`, or both (`Double.exists_form_eq_magnitudeText`).  So it is never taken for an integer.

The shape does not depend on the digits being the right ones.  What it needs of the search for the
shortest digits is only that it never finds zero for a positive number.
-/

namespace Statechart

open Text

namespace Digits

lemma div_le_divRound (num den : Nat) : num / den ≤ divRound num den := by
  unfold divRound
  dsimp only
  split_ifs <;> omega

end Digits

namespace Double

/-- The parts of a magnitude in decimal notation. -/
structure Form where
  /-- The digits before the point. -/
  whole : Text
  /-- The digits after the point; without any there is no point. -/
  fraction : Text
  /-- The exponent, if there is one. -/
  exponent : Option Int

namespace Form

/-- The decimals with the point in front of them. -/
def fractionText (f : Form) : Text := if f.fraction = [] then [] else '.' :: f.fraction

/-- The exponent with its letter. -/
def exponentPart (f : Form) : Text := f.exponent.elim [] fun e => 'e' :: exponentText e

/-- The notation with these parts. -/
def text (f : Form) : Text := f.whole ++ (f.fractionText ++ f.exponentPart)

/-- The double that the notation with these parts stands for. -/
def value (negative : Bool) (f : Form) : Double :=
  .ofDecimal negative (Digits.valueOfAscii (f.whole ++ f.fraction))
    (f.exponent.getD 0 - f.fraction.length)

/-- The parts make a floating-point number. -/
structure IsProper (f : Form) : Prop where
  /-- There are digits before the point. -/
  whole_ne_nil : f.whole ≠ []
  /-- Before the point stand digits only. -/
  whole : AllIn Digits.isAscii f.whole
  /-- Only a lone zero starts with a zero. -/
  leading : f.whole = ['0'] ∨ StartsOutside (· == '0') f.whole
  /-- After the point stand digits only. -/
  fraction : AllIn Digits.isAscii f.fraction
  /-- The number does not look like an integer. -/
  not_integer : f.fraction ≠ [] ∨ f.exponent ≠ none

end Form

/-! ## The digits that are found -/

variable {mantissa : Nat} {exponent : Int}

lemma ratio_pos (h : 0 < mantissa) (exponent : Int) :
    0 < (ratio mantissa exponent).1 ∧ 0 < (ratio mantissa exponent).2 := by
  unfold ratio
  split
  · exact ⟨Nat.mul_pos h (Nat.pow_pos (by decide)), Nat.one_pos⟩
  · exact ⟨h, Nat.pow_pos (by decide)⟩

/-- Zero is not read back as a positive number. -/
lemma pos_of_readsBack (h : 0 < mantissa) {c : Nat} {p : Int}
    (hread : readsBack mantissa exponent c p = true) : 0 < c := by
  rcases Nat.eq_zero_or_pos c with rfl | hc
  · have hunit := (ratio_pos Nat.one_pos (exponent - 2)).1
    simp only [readsBack, Nat.zero_mul] at hread
    set tenDen := (if 0 ≤ p then (Nat.pow 10 p.toNat, 1) else (1, Nat.pow 10 (-p).toNat)).2
      with hdef
    have hten : 0 < tenDen := by
      rw [hdef]
      split
      · exact Nat.one_pos
      · exact Nat.pow_pos (by decide)
    set lower := if mantissa = Nat.pow 2 52 ∧ minExponent < exponent then 4 * mantissa - 1
      else 4 * mantissa - 2 with hlower
    have hlow : 0 < lower := by
      rw [hlower]
      split <;> omega
    have hpos : 0 < lower * (ratio 1 (exponent - 2)).1 * tenDen :=
      Nat.mul_pos (Nat.mul_pos hlow hunit) hten
    split at hread
    · rw [Bool.and_eq_true, decide_eq_true_eq] at hread
      omega
    · rw [Bool.and_eq_true, decide_eq_true_eq] at hread
      omega
  · exact hc

/-- What is found on a grid is not zero. -/
lemma digits_pos_of_onGrid? (h : 0 < mantissa) {p : Int} {num den : Nat} {d : Decimal}
    (hgrid : onGrid? mantissa exponent p num den = some d) : 0 < d.digits := by
  simp only [onGrid?] at hgrid
  split at hgrid
  · next hbelow _ =>
    obtain rfl := Option.some.inj hgrid
    exact (pos_of_readsBack h hbelow).trans_le (Digits.div_le_divRound _ _)
  · next hbelow _ =>
    obtain rfl := Option.some.inj hgrid
    exact pos_of_readsBack h hbelow
  · obtain rfl := Option.some.inj hgrid
    exact Nat.succ_pos _
  · exact absurd hgrid (by simp)

lemma shortest_cases (h : 0 < mantissa) (exponent : Int) :
    0 < (shortest mantissa exponent).digits ∨ shortest mantissa exponent = ⟨0, 0⟩ := by
  simp only [shortest]
  cases hfound : (List.range 17).findSome? fun (k : Nat) =>
      onGrid? mantissa exponent
        (decimalExponent (ratio mantissa exponent).1 (ratio mantissa exponent).2 - k)
        (ratio mantissa exponent).1 (ratio mantissa exponent).2 with
  | none => exact .inr rfl
  | some d =>
    obtain ⟨k, -, hgrid⟩ := List.exists_of_findSome?_eq_some hfound
    exact .inl (digits_pos_of_onGrid? h hgrid)

/-! ## Their notation -/

lemma dropZeros_isPrefix (s : Text) : dropZeros s <+: s := by
  have h := List.dropWhile_suffix (· = '0') (l := s.reverse)
  rw [← List.reverse_prefix, List.reverse_reverse] at h
  exact h

lemma allIn_dropZeros {s : Text} (h : AllIn Digits.isAscii s) :
    AllIn Digits.isAscii (dropZeros s) :=
  fun _ hc => h _ ((dropZeros_isPrefix s).subset hc)

/-- Digits that do not start with a zero are not all zeros at the end. -/
lemma dropZeros_ne_nil {s : Text} (hne : s ≠ []) (hs : StartsOutside (· == '0') s) :
    dropZeros s ≠ [] := by
  obtain ⟨c, rest, rfl⟩ := List.exists_cons_of_ne_nil hne
  rw [startsOutside_cons] at hs
  intro hnil
  rw [dropZeros, List.reverse_eq_nil_iff, List.dropWhile_eq_nil_iff] at hnil
  have hzero := hnil c (by simp)
  simp_all

lemma startsOutside_of_isPrefix {p : Char → Bool} {s t : Text} (h : s <+: t)
    (ht : StartsOutside p t) : StartsOutside p s := by
  cases s with
  | nil => exact startsOutside_nil
  | cons c s =>
    obtain ⟨rest, rfl⟩ := h
    exact startsOutside_cons.mpr (startsOutside_cons.mp ht)

section

variable {digits : Text} (hne : digits ≠ []) (hdigits : AllIn Digits.isAscii digits)
include hne hdigits

/-- A number with an exponent has one digit before the point. -/
lemma exists_form_eq_withExponent (hlead : StartsOutside (· == '0') digits) (e : Int) :
    ∃ f : Form, f.IsProper ∧ withExponent digits e = f.text := by
  match digits with
  | [d] =>
    exact ⟨⟨[d], [], some e⟩, ⟨by simp, hdigits, .inr hlead, allIn_nil, .inr (by simp)⟩, rfl⟩
  | d :: d' :: rest =>
    obtain ⟨hd, hrest⟩ := allIn_cons.mp hdigits
    have hfirst : StartsOutside (· == '0') [d] := startsOutside_of_isPrefix ⟨d' :: rest, rfl⟩ hlead
    refine ⟨⟨[d], d' :: rest, some e⟩, ⟨by simp, allIn_singleton.mpr hd, .inr hfirst, hrest,
      .inl (by simp)⟩, ?_⟩
    simp [withExponent, Form.text, Form.fractionText, Form.exponentPart]

/-- A number below one has a lone zero before the point. -/
lemma exists_form_eq_decimals (zeros : Nat) :
    ∃ f : Form, f.IsProper ∧ '0' :: '.' :: List.replicate zeros '0' ++ digits = f.text := by
  have hfraction : AllIn Digits.isAscii (List.replicate zeros '0' ++ digits) :=
    allIn_append.mpr ⟨Digits.allIn_replicate_zero _, hdigits⟩
  refine ⟨⟨['0'], List.replicate zeros '0' ++ digits, none⟩,
    ⟨by simp, allIn_singleton.mpr rfl, .inl rfl, hfraction, .inl (by simp [hne])⟩, ?_⟩
  simp [Form.text, Form.fractionText, Form.exponentPart, hne]

/-- A number from one on has its digits around the point, with zeros where there are too few. -/
lemma exists_form_eq_positional (hlead : StartsOutside (· == '0') digits) {point : Nat}
    (hpoint : 0 < point) :
    ∃ f : Form, f.IsProper ∧ digits.take point ++
      List.replicate (point - (digits.take point).length) '0' ++
        '.' :: (if (digits.drop point).isEmpty then ['0'] else digits.drop point) = f.text := by
  set zeros := List.replicate (point - (digits.take point).length) '0'
  have htake : digits.take point ≠ [] := by
    rw [Ne, List.take_eq_nil_iff, not_or]
    exact ⟨hpoint.ne', hne⟩
  have hwhole : AllIn Digits.isAscii (digits.take point ++ zeros) :=
    allIn_append.mpr ⟨fun c hc => hdigits c (List.mem_of_mem_take hc),
      Digits.allIn_replicate_zero _⟩
  have hstart : StartsOutside (· == '0') (digits.take point ++ zeros) :=
    (startsOutside_append_of_ne_nil htake).mpr
      (startsOutside_of_isPrefix (List.take_prefix _ _) hlead)
  by_cases hdrop : digits.drop point = []
  · refine ⟨⟨digits.take point ++ zeros, ['0'], none⟩, ⟨by simp [htake], hwhole, .inr hstart,
      allIn_singleton.mpr rfl, .inl (by simp)⟩, ?_⟩
    simp [hdrop, Form.text, Form.fractionText, Form.exponentPart]
  · refine ⟨⟨digits.take point ++ zeros, digits.drop point, none⟩, ⟨by simp [htake], hwhole,
      .inr hstart, fun c hc => hdigits c (List.mem_of_mem_drop hc), .inl hdrop⟩, ?_⟩
    have hempty : (digits.drop point).isEmpty = false := by simpa using hdrop
    simp only [hempty, Form.text, Form.fractionText, Form.exponentPart, if_neg hdrop, Option.elim,
      List.append_nil, Bool.false_eq_true, if_false]

end

/-- A positive magnitude is written in the form of a floating-point number. -/
theorem exists_form_eq_magnitudeText (h : 0 < mantissa) (exponent : Int) :
    ∃ f : Form, f.IsProper ∧ magnitudeText mantissa exponent = f.text := by
  rcases shortest_cases h exponent with hpos | hnone
  · have hlead := Digits.startsOutside_ofNat hpos
    have hne := dropZeros_ne_nil (Digits.ofNat_ne_nil _) hlead
    have hdigits := allIn_dropZeros (Digits.allIn_ofNat (shortest mantissa exponent).digits)
    have hfirst := startsOutside_of_isPrefix (dropZeros_isPrefix _) hlead
    simp only [magnitudeText]
    split
    · exact exists_form_eq_withExponent hne hdigits hfirst _
    · split
      · exact exists_form_eq_decimals hne hdigits _
      · next hsmall =>
        exact exists_form_eq_positional hne hdigits hfirst
          (Int.pos_iff_toNat_pos.mp (Int.not_le.mp hsmall))
  · -- without digits the text is the one of zero
    have hzero : magnitudeText mantissa exponent = ['0', '.', '0'] := by
      simp only [magnitudeText, hnone]
      rfl
    exact ⟨⟨['0'], ['0'], none⟩, ⟨by decide, by decide, .inl rfl, by decide, .inl (by decide)⟩,
      hzero⟩

end Double

end Statechart
