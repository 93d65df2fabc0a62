import Mathlib.Algebra.Ring.Nat
import Mathlib.Data.List.Basic
import Statechart.Text.Utf8

/-!
# Texts and their bytes

What has been written in UTF-8 is read back (`decode_encode`).  The bytes of a character are its
first byte and its continuations, each of which carries six more bits of the code
(`decodeFrom_continuations`).
-/

namespace Statechart.Utf8

variable {n : Nat} {bs : List UInt8} {p : Begun}

lemma toNat_byte (h : n < 256) : (byte n).toNat = n := by
  rw [byte, UInt8.toNat_ofNat']
  exact Nat.mod_eq_of_lt h

lemma toNat_continuation (n shift : Nat) :
    (continuation n shift).toNat = 0x80 + n / 64 ^ shift % 64 :=
  toNat_byte (by have := Nat.mod_lt (n / 64 ^ shift) (by decide : 64 > 0); omega)

/-- The bytes behind the first one, when `later` more follow the next one. -/
def continuations (n : Nat) : Nat → List UInt8
  | 0 => [continuation n 0]
  | later + 1 => continuation n (later + 1) :: continuations n later

/-- The continuations of a character complete its code. -/
lemma decodeFrom_continuations (position : Nat) (hcode : p.code = n / 64 ^ (p.later + 1))
    (hleast : p.least.toNat ≤ 0x80 + n / 64 ^ p.later % 64)
    (hgreatest : 0x80 + n / 64 ^ p.later % 64 ≤ p.greatest.toNat) :
    decodeFrom position (some p) (continuations n p.later ++ bs) =
      (decodeFrom (position + p.more + p.later + 2) none bs).map (Char.ofNat n :: ·) := by
  obtain ⟨first, more, code, later, least, greatest⟩ := p
  simp only at hcode hleast hgreatest ⊢
  induction later generalizing more code least greatest with
  | zero =>
    have hbounds : least ≤ continuation n 0 ∧ continuation n 0 ≤ greatest := by
      simp only [UInt8.le_iff_toNat_le, toNat_continuation]
      exact ⟨hleast, hgreatest⟩
    have hnext : code * 64 + ((continuation n 0).toNat - 0x80) = n := by
      rw [toNat_continuation, hcode]
      omega
    simp only [continuations, List.cons_append, List.nil_append, decodeFrom, if_pos hbounds, hnext]
  | succ later ih =>
    have hbounds : least ≤ continuation n (later + 1) ∧ continuation n (later + 1) ≤ greatest := by
      simp only [UInt8.le_iff_toNat_le, toNat_continuation]
      exact ⟨hleast, hgreatest⟩
    have hnext :
        code * 64 + ((continuation n (later + 1)).toNat - 0x80) = n / 64 ^ (later + 1) := by
      rw [toNat_continuation, hcode, Nat.pow_succ 64 (later + 1), ← Nat.div_div_eq_div_mul]
      omega
    simp only [continuations, List.cons_append, decodeFrom, if_pos hbounds, hnext]
    have hsix := Nat.mod_lt (n / 64 ^ later) (by decide : 64 > 0)
    rw [ih (more + 1) _ _ _ rfl (Nat.le_add_right _ _) (by
      show 0x80 + n / 64 ^ later % 64 ≤ 0xBF
      omega)]
    have hposition : position + (more + 1) + later + 2 = position + more + (later + 1) + 2 := by
      omega
    rw [hposition]

/-- The first byte of a character begins it. -/
lemma decodeFrom_begin (position : Nat) {b : UInt8} (hb : begin? b = some p) :
    decodeFrom position none (b :: bs) = decodeFrom position (some p) bs := by
  have hlarge : ¬ b < 0x80 := by
    intro hsmall
    have hcode : b.toNat < 0x80 := UInt8.lt_iff_toNat_lt.mp hsmall
    simp only [begin?] at hb
    split_ifs at hb <;> omega
  rw [decodeFrom, if_neg hlarge, hb]

/-! ## Characters of more than one byte

The bounds of the second byte leave no code out that the first byte can begin. -/

lemma decodeFrom_two (position : Nat) (hleast : 0x80 ≤ n) (hgreatest : n < 0x800) :
    decodeFrom position none (byte (0xC0 + n / 64) :: continuations n 0 ++ bs) =
      (decodeFrom (position + 2) none bs).map (Char.ofNat n :: ·) := by
  have hbegin : begin? (byte (0xC0 + n / 64)) =
      some ⟨byte (0xC0 + n / 64), 0, n / 64, 0, 0x80, 0xBF⟩ := by
    rw [begin?, toNat_byte (by omega), if_pos (by omega), Nat.add_sub_cancel_left]
  refine (decodeFrom_begin position hbegin).trans (decodeFrom_continuations position rfl ?_ ?_)
  · exact Nat.le_add_right _ _
  · show 0x80 + n / 1 % 64 ≤ 0xBF
    omega

lemma decodeFrom_three (position : Nat) (hleast : 0x800 ≤ n) (hgreatest : n < 0x10000)
    (hhalf : n < 0xD800 ∨ 0xDFFF < n) :
    decodeFrom position none (byte (0xE0 + n / 64 ^ 2) :: continuations n 1 ++ bs) =
      (decodeFrom (position + 3) none bs).map (Char.ofNat n :: ·) := by
  have hbegin : begin? (byte (0xE0 + n / 64 ^ 2)) =
      some ⟨byte (0xE0 + n / 64 ^ 2), 0, n / 64 ^ 2, 1,
        if 0xE0 + n / 64 ^ 2 = 0xE0 then 0xA0 else 0x80,
        if 0xE0 + n / 64 ^ 2 = 0xED then 0x9F else 0xBF⟩ := by
    rw [begin?, toNat_byte (by omega), if_neg (by omega), if_pos (by omega),
      Nat.add_sub_cancel_left]
  refine (decodeFrom_begin position hbegin).trans (decodeFrom_continuations position rfl ?_ ?_)
  · show UInt8.toNat (if _ then _ else _) ≤ 0x80 + n / 64 % 64
    split_ifs with hfirst
    · show 0xA0 ≤ _
      omega
    · exact Nat.le_add_right _ _
  · show 0x80 + n / 64 % 64 ≤ UInt8.toNat (if _ then _ else _)
    split_ifs with hfirst
    · show _ ≤ 0x9F
      omega
    · show _ ≤ 0xBF
      omega

lemma decodeFrom_four (position : Nat) (hleast : 0x10000 ≤ n) (hgreatest : n < 0x110000) :
    decodeFrom position none (byte (0xF0 + n / 64 ^ 3) :: continuations n 2 ++ bs) =
      (decodeFrom (position + 4) none bs).map (Char.ofNat n :: ·) := by
  have hbegin : begin? (byte (0xF0 + n / 64 ^ 3)) =
      some ⟨byte (0xF0 + n / 64 ^ 3), 0, n / 64 ^ 3, 2,
        if 0xF0 + n / 64 ^ 3 = 0xF0 then 0x90 else 0x80,
        if 0xF0 + n / 64 ^ 3 = 0xF4 then 0x8F else 0xBF⟩ := by
    rw [begin?, toNat_byte (by omega), if_neg (by omega), if_neg (by omega), if_pos (by omega),
      Nat.add_sub_cancel_left]
  refine (decodeFrom_begin position hbegin).trans (decodeFrom_continuations position rfl ?_ ?_)
  · show UInt8.toNat (if _ then _ else _) ≤ 0x80 + n / 64 ^ 2 % 64
    split_ifs with hfirst
    · show 0x90 ≤ _
      omega
    · exact Nat.le_add_right _ _
  · show 0x80 + n / 64 ^ 2 % 64 ≤ UInt8.toNat (if _ then _ else _)
    split_ifs with hfirst
    · show _ ≤ 0x8F
      omega
    · show _ ≤ 0xBF
      omega

/-! ## Texts -/

/-- A character is read back. -/
lemma decodeFrom_encodeChar (position : Nat) (c : Char) (bs : List UInt8) :
    ∃ next, decodeFrom position none (encodeChar c ++ bs) =
      (decodeFrom next none bs).map (c :: ·) := by
  have hvalid : c.toNat < 0xD800 ∨ (0xDFFF < c.toNat ∧ c.toNat < 0x110000) := c.valid
  have hchar : Char.ofNat c.toNat = c := Char.ofNat_toNat c
  unfold encodeChar
  generalize c.toNat = n at hvalid hchar ⊢
  subst hchar
  simp only
  split_ifs with hone htwo hthree
  · have hsmall : byte n < 0x80 := by
      rw [UInt8.lt_iff_toNat_lt, toNat_byte (by omega)]
      exact hone
    refine ⟨position + 1, ?_⟩
    rw [List.cons_append, List.nil_append, decodeFrom, if_pos hsmall, toNat_byte (by omega)]
  · exact ⟨_, decodeFrom_two position (by omega) htwo⟩
  · exact ⟨_, decodeFrom_three position (by omega) hthree (by omega)⟩
  · exact ⟨_, decodeFrom_four position (by omega) (by omega)⟩

/-- A text is read back from its bytes. -/
theorem decode_encode (s : Text) : decode (encode s) = .ok s := by
  suffices h : ∀ position, decodeFrom position none (encode s) = .ok s from h 0
  induction s with
  | nil => exact fun _ => rfl
  | cons c s ih =>
    intro position
    obtain ⟨next, hnext⟩ := decodeFrom_encodeChar position c (encode s)
    rw [encode, List.flatMap_cons, ← encode, hnext, ih]
    rfl

end Statechart.Utf8
