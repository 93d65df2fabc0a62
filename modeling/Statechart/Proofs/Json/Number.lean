import Mathlib.Data.List.Basic
import Statechart.Json.Printer
import Statechart.Json.Reader
import Statechart.Proofs.Numeral.Double

/-!
# Reading written numbers

A written number is read up to its end, whatever stands behind it, as long as that does not go on
the number (`Json.isNumberPart`).  An integer is read as itself, provided that it does not have too
many digits (`Json.readPlain_int`).  A floating-point number is read as a floating-point number, the
one that its digits stand for (`Json.readPlain_double`); infinities and what is not a number are
words of their own.
-/

namespace Statechart

open Text

/-- The double that is read where a double has been written. -/
def Double.reread (x : Double) : Double :=
  match Json.readNumber (Json.writeDouble x) with
  | .ok (.double y, _) => y
  | _ => x

namespace Json

variable {s rest whole : Text} {negative : Bool}

/-- A character that goes on a number that stands before it. -/
def isNumberPart (c : Char) : Bool := Digits.isAscii c || c == '.' || c == 'e' || c == 'E'

/-- What goes on no number does not go on digits. -/
lemma startsOutside_digits (h : StartsOutside isNumberPart s) :
    StartsOutside Digits.isAscii s := by
  cases s with
  | nil => exact startsOutside_nil
  | cons c s =>
    simp only [startsOutside_cons, isNumberPart, Bool.or_eq_false_iff] at h
    exact startsOutside_cons.mpr h.1.1.1

/-- What goes on no number does not begin with a point. -/
lemma startsOutside_point (h : StartsOutside isNumberPart s) : StartsOutside (· == '.') s := by
  cases s with
  | nil => exact startsOutside_nil
  | cons c s =>
    simp only [startsOutside_cons, isNumberPart, Bool.or_eq_false_iff] at h
    exact startsOutside_cons.mpr h.1.1.2

/-! ## The parts of a number -/

/-- The whole digits are read up to what does not go on digits. -/
lemma wholeDigits_append (hne : whole ≠ []) (hwhole : AllIn Digits.isAscii whole)
    (hlead : whole = ['0'] ∨ StartsOutside (· == '0') whole)
    (hrest : StartsOutside Digits.isAscii rest) : wholeDigits (whole ++ rest) = whole := by
  rcases hlead with rfl | hlead
  · rfl
  · obtain ⟨c, digits, rfl⟩ := List.exists_cons_of_ne_nil hne
    rw [startsOutside_cons, beq_eq_false_iff_ne] at hlead
    rw [List.cons_append, wholeDigits]
    · exact takeWhile_append_eq hwhole hrest
    · exact fun _ heq => hlead (List.cons.inj heq).1

/-- There are no decimals without a point. -/
lemma decimals_eq_nil (h : StartsOutside (· == '.') rest) : decimals rest = [] := by
  cases rest with
  | nil => rfl
  | cons c rest =>
    rw [startsOutside_cons, beq_eq_false_iff_ne] at h
    rw [decimals]
    exact fun _ heq => h (List.cons.inj heq).1

/-- What goes on no number is no exponent. -/
lemma exponent?_eq_none (h : StartsOutside isNumberPart rest) : exponent? rest = none := by
  cases rest with
  | nil => rfl
  | cons c rest =>
    have hc : c ≠ 'e' ∧ c ≠ 'E' := by
      simp only [startsOutside_cons, isNumberPart, Bool.or_eq_false_iff] at h
      exact ⟨beq_eq_false_iff_ne.mp h.1.2, beq_eq_false_iff_ne.mp h.2⟩
    simp [exponent?, hc]

/-- A written exponent is read with its length. -/
lemma exponent?_append (e : Int) (hrest : StartsOutside Digits.isAscii rest) :
    exponent? ('e' :: Double.exponentText e ++ rest) =
      some (e, ('e' :: Double.exponentText e).length) := by
  unfold Double.exponentText
  generalize hn : e.natAbs = n
  have hdigits : (Digits.padded 2 n ++ rest).takeWhile Digits.isAscii = Digits.padded 2 n :=
    takeWhile_append_eq (Digits.allIn_padded 2 n) hrest
  have hne : (Digits.padded 2 n).isEmpty = false := by simpa using Digits.padded_ne_nil 2 n
  by_cases hneg : e < 0
  · have he : -(n : Int) = e := by omega
    rw [if_pos hneg]
    simp [exponent?, hdigits, hne, he]
    omega
  · have he : (n : Int) = e := by omega
    rw [if_neg hneg]
    simp [exponent?, hdigits, hne, he]
    omega

/-- A written sign is read, and no sign is read where none is written. -/
lemma signed_append (hne : whole ≠ []) (hwhole : AllIn Digits.isAscii whole) :
    signed (Double.signText negative ++ (whole ++ rest)) = (negative, whole ++ rest) := by
  obtain ⟨c, digits, rfl⟩ := List.exists_cons_of_ne_nil hne
  cases negative with
  | true => rfl
  | false =>
    have hc : c ≠ '-' := by
      rintro rfl
      exact absurd (allIn_cons.mp hwhole).1 (by decide)
    change signed (c :: (digits ++ rest)) = _
    rw [signed]
    · rfl
    · exact fun _ heq => hc (List.cons.inj heq).1

/-- After a sign and whole digits the rest of the number is read. -/
lemma readNumber_append (hne : whole ≠ []) (hwhole : AllIn Digits.isAscii whole)
    (hlead : whole = ['0'] ∨ StartsOutside (· == '0') whole)
    (hrest : StartsOutside Digits.isAscii rest) :
    readNumber (Double.signText negative ++ (whole ++ rest)) =
      readDecimals (Double.signText negative ++ (whole ++ rest)).length negative whole rest := by
  have hempty : whole.isEmpty = false := by simpa using hne
  simp only [readNumber, signed_append hne hwhole, wholeDigits_append hne hwhole hlead hrest,
    hempty, List.drop_left, Bool.false_eq_true, if_false]

/-! ## Integers -/

/-- Digits with a sign are an integer if nothing goes on them. -/
lemma readNumber_ofNat (n : Nat) (hn : (Digits.ofNat n).length ≤ Digits.most)
    (hrest : StartsOutside isNumberPart rest) :
    readNumber (Double.signText negative ++ (Digits.ofNat n ++ rest)) =
      .ok (.int (if negative then -n else n), rest) := by
  have hlead : Digits.ofNat n = ['0'] ∨ StartsOutside (· == '0') (Digits.ofNat n) := by
    rcases Nat.eq_zero_or_pos n with rfl | hpos
    · exact .inl rfl
    · exact .inr (Digits.startsOutside_ofNat hpos)
  have hpoint : decimals rest = [] := decimals_eq_nil (startsOutside_point hrest)
  rw [readNumber_append (Digits.ofNat_ne_nil n) (Digits.allIn_ofNat n) hlead
    (startsOutside_digits hrest)]
  simp [readDecimals, hpoint, exponent?_eq_none hrest, Nat.not_lt.mpr hn]

/-- An integer is written as its sign and its digits. -/
lemma ofInt_eq_sign_append (i : Int) :
    Digits.ofInt i = Double.signText (i < 0) ++ Digits.ofNat i.natAbs := by
  unfold Digits.ofInt Double.signText
  by_cases h : i < 0 <;> simp [h]

/-- An integer is read as itself, as a number. -/
lemma readNumber_int {i : Int} (hi : Digits.isLong i = false)
    (hrest : StartsOutside isNumberPart rest) :
    readNumber (Digits.ofInt i ++ rest) = .ok (.int i, rest) := by
  have hshort : (Digits.ofNat i.natAbs).length ≤ Digits.most := by
    simpa [Digits.isLong] using hi
  rw [ofInt_eq_sign_append, List.append_assoc, readNumber_ofNat _ hshort hrest]
  by_cases h : i < 0
  · simp only [h, decide_true, if_true]
    congr
    omega
  · simp only [h, decide_false, Bool.false_eq_true, if_false]
    congr
    omega

/-! ## Floating-point numbers -/

section

variable (f : Double.Form)

/-- Before the rest of a text there may be an exponent, which begins with its letter. -/
lemma startsOutside_exponentPart {p : Char → Bool} (he : p 'e' = false)
    (hrest : StartsOutside p rest) : StartsOutside p (f.exponentPart ++ rest) := by
  unfold Double.Form.exponentPart
  cases f.exponent with
  | none => exact hrest
  | some e => exact startsOutside_cons.mpr he

/-- The exponent of a notation is read with its length, if it has one. -/
lemma exponent?_exponentPart (hrest : StartsOutside isNumberPart rest) :
    exponent? (f.exponentPart ++ rest) = f.exponent.map (·, f.exponentPart.length) := by
  unfold Double.Form.exponentPart
  cases f.exponent with
  | none => exact exponent?_eq_none hrest
  | some e => exact exponent?_append e (startsOutside_digits hrest)

variable {f}

/-- The decimals of a notation are read, if it has some. -/
lemma decimals_fractionText (hf : f.IsProper) (hdigits : StartsOutside Digits.isAscii s)
    (hpoint : StartsOutside (· == '.') s) : decimals (f.fractionText ++ s) = f.fraction := by
  unfold Double.Form.fractionText
  by_cases h : f.fraction = []
  · rw [if_pos h, h]
    exact decimals_eq_nil hpoint
  · rw [if_neg h]
    exact takeWhile_append_eq hf.fraction hdigits

/-- A number with decimals or with an exponent is a floating-point number. -/
lemma readNumber_form (hf : f.IsProper) (hrest : StartsOutside isNumberPart rest) :
    readNumber (Double.signText negative ++ (f.text ++ rest)) =
      .ok (.double (f.value negative), rest) := by
  have hpoint : StartsOutside (· == '.') (f.exponentPart ++ rest) :=
    startsOutside_exponentPart f rfl (startsOutside_point hrest)
  have hdigits : StartsOutside Digits.isAscii (f.exponentPart ++ rest) :=
    startsOutside_exponentPart f rfl (startsOutside_digits hrest)
  have hfraction : StartsOutside Digits.isAscii (f.fractionText ++ (f.exponentPart ++ rest)) := by
    unfold Double.Form.fractionText
    split
    · exact hdigits
    · exact startsOutside_cons.mpr rfl
  have hafter : (if f.fraction.isEmpty = true then f.fractionText ++ (f.exponentPart ++ rest)
      else (f.fractionText ++ (f.exponentPart ++ rest)).drop (f.fraction.length + 1)) =
        f.exponentPart ++ rest := by
    unfold Double.Form.fractionText
    cases hempty : f.fraction <;> simp
  rw [Double.Form.text, List.append_assoc, List.append_assoc,
    readNumber_append hf.whole_ne_nil hf.whole hf.leading hfraction]
  simp only [readDecimals, decimals_fractionText hf hdigits hpoint, hafter,
    exponent?_exponentPart f hrest]
  cases hexponent : f.exponent with
  | some e => simp [Double.Form.value, hexponent]
  | none =>
    have hne : f.fraction ≠ [] := hf.not_integer.resolve_right (by simp [hexponent])
    simp [Double.Form.value, Double.Form.exponentPart, hexponent, hne]

end

/-- A finite number is written as a sign and the parts of a floating-point number. -/
lemma exists_form_eq_writeDouble (negative : Bool) (mantissa : Nat) (exponent : Int) :
    ∃ f : Double.Form, f.IsProper ∧
      writeDouble (.finite negative mantissa exponent) = Double.signText negative ++ f.text := by
  rcases Nat.eq_zero_or_pos mantissa with rfl | hpos
  · exact ⟨⟨['0'], ['0'], none⟩, ⟨by decide, by decide, .inl rfl, by decide, .inl (by decide)⟩, rfl⟩
  · obtain ⟨f, hf, htext⟩ := Double.exists_form_eq_magnitudeText hpos exponent
    refine ⟨f, hf, ?_⟩
    rw [← htext, writeDouble, Double.textWith]
    exact hpos.ne'

/-- A finite number is read as the one that its digits stand for, as a number. -/
lemma readNumber_finite {mantissa : Nat} {exponent : Int}
    (hrest : StartsOutside isNumberPart rest) :
    readNumber (writeDouble (.finite negative mantissa exponent) ++ rest) =
      .ok (.double (Double.finite negative mantissa exponent).reread, rest) := by
  obtain ⟨f, hf, htext⟩ := exists_form_eq_writeDouble negative mantissa exponent
  have halone : readNumber (writeDouble (.finite negative mantissa exponent)) =
      .ok (.double (f.value negative), []) := by
    rw [htext, ← List.append_nil f.text]
    exact readNumber_form hf startsOutside_nil
  rw [Double.reread, halone, htext, List.append_assoc]
  exact readNumber_form hf hrest

/-! ## Numbers and words -/

/-- What starts with a digit behind an optional sign is none of the words. -/
lemma readPlain_of_digit {c : Char} (hc : Digits.isAscii c = true) :
    readPlain (Double.signText negative ++ c :: rest) =
      readNumber (Double.signText negative ++ c :: rest) := by
  have hletter : ∀ d : Char, Digits.isAscii d = false → d ≠ c := by
    rintro d hd rfl
    exact absurd hc (by simp [hd])
  have hI := hletter 'I' rfl
  have hn := hletter 'n' rfl
  have ht := hletter 't' rfl
  have hf := hletter 'f' rfl
  have hN := hletter 'N' rfl
  have hminus := hletter '-' rfl
  cases negative <;>
    simp [readPlain, wordValues, past?, Double.signText, hI, hn, ht, hf, hN, hminus]

/-- An integer is read as itself. -/
theorem readPlain_int {i : Int} (hi : Digits.isLong i = false)
    (hrest : StartsOutside isNumberPart rest) :
    readPlain (Digits.ofInt i ++ rest) = .ok (.int i, rest) := by
  obtain ⟨c, digits, hdigits⟩ := List.exists_cons_of_ne_nil (Digits.ofNat_ne_nil i.natAbs)
  have hc : Digits.isAscii c = true := Digits.allIn_ofNat i.natAbs c (by simp [hdigits])
  rw [← readNumber_int hi hrest, ofInt_eq_sign_append, hdigits, List.append_assoc, List.cons_append]
  exact readPlain_of_digit hc

/-- A floating-point number is read as the one that its digits stand for. -/
theorem readPlain_double (x : Double) (hrest : StartsOutside isNumberPart rest) :
    readPlain (writeDouble x ++ rest) = .ok (.double x.reread, rest) := by
  cases x with
  | nan => rfl
  | infinite negative => cases negative <;> rfl
  | finite negative mantissa exponent =>
    obtain ⟨f, hf, htext⟩ := exists_form_eq_writeDouble negative mantissa exponent
    obtain ⟨c, digits, hdigits⟩ := List.exists_cons_of_ne_nil hf.whole_ne_nil
    have hc : Digits.isAscii c = true := hf.whole c (by simp [hdigits])
    rw [← readNumber_finite hrest, htext, Double.Form.text, hdigits, List.append_assoc,
      List.append_assoc, List.cons_append]
    exact readPlain_of_digit hc

end Json

end Statechart
