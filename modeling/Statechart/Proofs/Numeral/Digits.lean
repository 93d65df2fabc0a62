import Mathlib.Data.List.Basic
import Statechart.Numeral.Digits
import Statechart.Proofs.Text.Scan

/-!
# Written natural numbers

The digits of a natural number are ASCII digits, at least one, and the first one is a zero only for
zero itself.  They stand for the number that was written (`Digits.valueOfAscii_ofNat`), also with
zeros in front (`Digits.valueOfAscii_padded`).
-/

namespace Statechart.Digits

open Text

/-- A number is written with ASCII digits. -/
lemma allIn_ofNat (n : Nat) : AllIn isAscii (ofNat n) := fun _ hc =>
  Nat.isDigit_of_mem_toDigits (by decide) (by decide) hc

/-- A number has at least one digit. -/
lemma ofNat_ne_nil (n : Nat) : ofNat n ≠ [] := Nat.toDigits_ne_nil

/-- Only the digit of zero is a zero. -/
lemma digitChar_ne_zero : ∀ n < 10, 0 < n → (Nat.digitChar n == '0') = false := by decide

/-- Only zero is written with a zero in front. -/
lemma startsOutside_ofNat {n : Nat} (h : 0 < n) : StartsOutside (· == '0') (ofNat n) := by
  induction n using Nat.strong_induction_on with
  | _ n ih =>
    unfold ofNat
    rcases Nat.lt_or_ge n 10 with hlt | hge
    · rw [Nat.toDigits_of_lt_base hlt, startsOutside_cons]
      exact digitChar_ne_zero n hlt h
    · have hquotient := ih (n / 10) (Nat.div_lt_self h (by decide)) (Nat.div_pos hge (by decide))
      rw [Nat.toDigits_of_base_le (by decide) hge]
      exact (startsOutside_append_of_ne_nil (ofNat_ne_nil _)).mpr hquotient

/-- The value of ASCII digits is the one of their decimal notation. -/
lemma valueOfAscii_eq_ofDigitChars (s : Text) : valueOfAscii s = Nat.ofDigitChars 10 s 0 := by
  rw [Nat.ofDigitChars_eq_foldl, valueOfAscii, value, List.foldl_map]

/-- The digits of a number stand for it. -/
@[simp] lemma valueOfAscii_ofNat (n : Nat) : valueOfAscii (ofNat n) = n := by
  rw [valueOfAscii_eq_ofDigitChars]
  exact Nat.ofDigitChars_toDigits (by decide) (by decide)

lemma allIn_replicate_zero (n : Nat) : AllIn isAscii (List.replicate n '0') := by
  intro c hc
  rw [List.eq_of_mem_replicate hc]
  rfl

/-- With zeros in front a number is still written with ASCII digits. -/
lemma allIn_padded (width n : Nat) : AllIn isAscii (padded width n) :=
  allIn_append.mpr ⟨allIn_replicate_zero _, allIn_ofNat n⟩

/-- With zeros in front a number still has at least one digit. -/
lemma padded_ne_nil (width n : Nat) : padded width n ≠ [] :=
  List.append_ne_nil_of_right_ne_nil _ (ofNat_ne_nil n)

/-- Zeros in front of a number change nothing. -/
@[simp] lemma valueOfAscii_padded (width n : Nat) : valueOfAscii (padded width n) = n := by
  rw [valueOfAscii_eq_ofDigitChars, padded, padZeros, Nat.ofDigitChars_append,
    Nat.ofDigitChars_replicate_zero, Nat.mul_zero, ← valueOfAscii_eq_ofDigitChars,
    valueOfAscii_ofNat]

end Statechart.Digits
