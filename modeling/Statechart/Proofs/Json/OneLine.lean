import Mathlib.Data.List.Basic
import Statechart.Json.Printer
import Statechart.Proofs.Json.Number

/-!
# JSON on one line

A value in a layout without line breaks is written without any control character below U+0020
(`Json.allIn_write`), whatever characters its texts and names hold at whatever depth.  So it is one
line of text.  For want of line breaks it is written in the same way at every depth
(`Json.writeAt_eq`).
-/

namespace Statechart

open Text

/-- A character that is none of the control characters below U+0020. -/
def Text.isAboveControls (c : Char) : Bool := 0x20 ≤ c.toNat

namespace Json

/-- A digit is no control character. -/
lemma isAboveControls_of_isAscii {c : Char} (h : Digits.isAscii c = true) :
    isAboveControls c = true := by
  have hzero : 0x30 ≤ c.toNat := by
    have hdigit : 48 ≤ c.val ∧ c.val ≤ 57 := by
      simpa [Digits.isAscii, Char.isDigit] using h
    exact UInt32.le_iff_toNat_le.mp hdigit.1
  exact decide_eq_true (le_trans (by decide) hzero)

lemma allIn_of_digits {s : Text} (h : AllIn Digits.isAscii s) : AllIn isAboveControls s :=
  fun c hc => isAboveControls_of_isAscii (h c hc)

/-! ## Texts and numbers -/

/-- A hexadecimal digit is no control character. -/
lemma isAboveControls_hexDigit (n : Nat) : isAboveControls (hexDigit n) = true := by
  have hdigits : ∀ k < 16, isAboveControls (Nat.digitChar k) = true := by decide
  exact hdigits (n % 16) (Nat.mod_lt _ (by decide))

/-- A number in hexadecimal digits has no control character. -/
lemma allIn_hex (width n : Nat) : AllIn isAboveControls (hex width n) := by
  induction width generalizing n with
  | zero => exact allIn_nil
  | succ width ih =>
    exact allIn_append.mpr ⟨ih (n / 16), allIn_singleton.mpr (isAboveControls_hexDigit n)⟩

/-- The notation of a character has no control character, even if it is one. -/
lemma allIn_escapeChar (c : Char) : AllIn isAboveControls (escapeChar c) := by
  unfold escapeChar
  split_ifs with hquote hslash hfeed hreturn htab hback hform hcontrol
  -- first the escapes by a letter, then the one by the code, then the character itself
  iterate 7 decide
  · exact allIn_cons.mpr ⟨rfl, allIn_cons.mpr ⟨rfl, allIn_hex 4 _⟩⟩
  · exact allIn_singleton.mpr (decide_eq_true (Nat.not_lt.mp hcontrol))

/-- A written text has no control character, for each of its characters is escaped. -/
lemma allIn_writeText (s : Text) : AllIn isAboveControls (writeText s) := by
  refine allIn_cons.mpr ⟨rfl, allIn_append.mpr ⟨?_, allIn_singleton.mpr rfl⟩⟩
  intro c hc
  obtain ⟨d, -, hd⟩ := List.mem_flatMap.mp hc
  exact allIn_escapeChar d c hd

lemma allIn_signText (negative : Bool) : AllIn isAboveControls (Double.signText negative) := by
  cases negative <;> decide

/-- A written integer has no control character. -/
lemma allIn_ofInt (i : Int) : AllIn isAboveControls (Digits.ofInt i) := by
  rw [ofInt_eq_sign_append]
  exact allIn_append.mpr ⟨allIn_signText _, allIn_of_digits (Digits.allIn_ofNat _)⟩

/-- The notation of a floating-point number has no control character in any of its parts. -/
lemma allIn_form {f : Double.Form} (hf : f.IsProper) : AllIn isAboveControls f.text := by
  have hfraction : AllIn isAboveControls f.fractionText := by
    unfold Double.Form.fractionText
    split
    · exact allIn_nil
    · exact allIn_cons.mpr ⟨rfl, allIn_of_digits hf.fraction⟩
  have hexponent : AllIn isAboveControls f.exponentPart := by
    unfold Double.Form.exponentPart
    cases f.exponent with
    | none => exact allIn_nil
    | some e =>
      refine allIn_cons.mpr ⟨rfl, allIn_cons.mpr ⟨?_, allIn_of_digits (Digits.allIn_padded 2 _)⟩⟩
      split <;> rfl
  exact allIn_append.mpr ⟨allIn_of_digits hf.whole, allIn_append.mpr ⟨hfraction, hexponent⟩⟩

/-- A written floating-point number has no control character. -/
lemma allIn_writeDouble (x : Double) : AllIn isAboveControls (writeDouble x) := by
  cases x with
  | nan => decide
  | infinite negative => cases negative <;> decide
  | finite negative mantissa exponent =>
    obtain ⟨f, hf, htext⟩ := exists_form_eq_writeDouble negative mantissa exponent
    rw [htext]
    exact allIn_append.mpr ⟨allIn_signText _, allIn_form hf⟩

/-! ## Values -/

/-- A layout that breaks no line. -/
structure Layout.OnOneLine (l : Layout) : Prop where
  step : l.step = none
  comma : AllIn isAboveControls l.comma
  colon : AllIn isAboveControls l.colon

lemma Layout.onOneLine_spaced : spaced.OnOneLine := ⟨rfl, by decide, by decide⟩

variable {l : Layout}

/-- A layout that breaks no line has nothing to put in the place of a line break. -/
lemma Layout.OnOneLine.newline_eq_nil (hl : l.OnOneLine) (depth : Nat) :
    l.newline depth = [] := by
  rw [newline, hl.step]

lemma Layout.OnOneLine.allIn_newline (hl : l.OnOneLine) (depth : Nat) :
    AllIn isAboveControls (l.newline depth) := by
  rw [hl.newline_eq_nil]
  exact allIn_nil

mutual

/-- A value has no control character at any depth. -/
lemma allIn_writeAt (hl : l.OnOneLine) (depth : Nat) :
    ∀ j : Json, AllIn isAboveControls (writeAt l depth j)
  | .null => by
    simp only [writeAt]
    decide
  | .bool b => by
    simp only [writeAt]
    cases b <;> decide
  | .int i => allIn_ofInt i
  | .double x => allIn_writeDouble x
  | .text s => allIn_writeText s
  | .array [] => by
    simp only [writeAt]
    decide
  | .array (item :: items) => by
    simp only [writeAt, allIn_cons, allIn_append]
    exact ⟨rfl, hl.allIn_newline _, allIn_writeAt hl _ item, allIn_writeItems hl _ items,
      hl.allIn_newline _, rfl, allIn_nil⟩
  | .object [] => by
    simp only [writeAt]
    decide
  | .object ((name, value) :: fields) => by
    simp only [writeAt, allIn_cons, allIn_append]
    exact ⟨rfl, hl.allIn_newline _, allIn_writeText name, hl.colon, allIn_writeAt hl _ value,
      allIn_writeFields hl _ fields, hl.allIn_newline _, rfl, allIn_nil⟩

/-- The items behind the first of an array have no control character. -/
lemma allIn_writeItems (hl : l.OnOneLine) (depth : Nat) :
    ∀ items : List Json, AllIn isAboveControls (writeItems l depth items)
  | [] => allIn_nil
  | item :: items => by
    simp only [writeItems, allIn_append]
    exact ⟨hl.comma, hl.allIn_newline _, allIn_writeAt hl _ item, allIn_writeItems hl _ items⟩

/-- The fields behind the first of an object have no control character. -/
lemma allIn_writeFields (hl : l.OnOneLine) (depth : Nat) :
    ∀ fields : List (Text × Json), AllIn isAboveControls (writeFields l depth fields)
  | [] => allIn_nil
  | (name, value) :: fields => by
    simp only [writeFields, allIn_append]
    exact ⟨hl.comma, hl.allIn_newline _, allIn_writeText name, hl.colon, allIn_writeAt hl _ value,
      allIn_writeFields hl _ fields⟩

end

mutual

/-- Without line breaks a value is written in the same way at every depth. -/
lemma writeAt_eq (hl : l.OnOneLine) (depth depth' : Nat) :
    ∀ j : Json, writeAt l depth j = writeAt l depth' j
  | .null | .bool _ | .int _ | .double _ | .text _ | .array [] | .object [] => by
    simp only [writeAt]
  | .array (item :: items) => by
    simp only [writeAt, hl.newline_eq_nil]
    rw [writeAt_eq hl (depth + 1) (depth' + 1) item,
      writeItems_eq hl (depth + 1) (depth' + 1) items]
  | .object ((name, value) :: fields) => by
    simp only [writeAt, hl.newline_eq_nil]
    rw [writeAt_eq hl (depth + 1) (depth' + 1) value,
      writeFields_eq hl (depth + 1) (depth' + 1) fields]

/-- Without line breaks items are written in the same way at every depth. -/
lemma writeItems_eq (hl : l.OnOneLine) (depth depth' : Nat) :
    ∀ items : List Json, writeItems l depth items = writeItems l depth' items
  | [] => rfl
  | item :: items => by
    simp only [writeItems, hl.newline_eq_nil]
    rw [writeAt_eq hl depth depth' item, writeItems_eq hl depth depth' items]

/-- Without line breaks fields are written in the same way at every depth. -/
lemma writeFields_eq (hl : l.OnOneLine) (depth depth' : Nat) :
    ∀ fields : List (Text × Json), writeFields l depth fields = writeFields l depth' fields
  | [] => rfl
  | (name, value) :: fields => by
    simp only [writeFields, hl.newline_eq_nil]
    rw [writeAt_eq hl depth depth' value, writeFields_eq hl depth depth' fields]

end

/-- A value that is written without line breaks has no control character in its text. -/
theorem allIn_write (hl : l.OnOneLine) (j : Json) : AllIn isAboveControls (j.write l) :=
  allIn_writeAt hl 0 j

end Json

end Statechart
