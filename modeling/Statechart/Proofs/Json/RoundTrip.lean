import Mathlib.Data.List.Basic
import Statechart.Json.Printer
import Statechart.Json.Reader
import Statechart.Proofs.Catalog.Laws
import Statechart.Proofs.Json.Number
import Statechart.Proofs.Text.Scan

/-!
# Reading written JSON

What `Json.write` has written is read by `Json.read`, in any layout that puts only blanks around
the commas and colons, unless an integer has too many digits (`Json.read_write_reread`).  The value
that is read is `Json.reread`: a floating-point number is the one that its digits stand for, and a
name that stands twice in an object counts once.  A value without numbers in whose objects all
names differ is read as itself (`Json.read_write`).

The reader works with fuel and with a bound on the depth of brackets.  The length of a written
value is enough for both: every bracket, comma and quote takes a character.
-/

namespace Statechart.Json

open Text (AllIn StartsOutside allIn_nil allIn_cons allIn_append startsOutside_cons)

variable {rules : Rules} {start : Nat} {rest : Text} {c : Char}

/-! ## Texts -/

/-- A backslash before a letter stands for the character that the letter escapes. -/
lemma readTextBody_letter {e : Char} (h : letterEscape? c = some e) :
    readTextBody rules start ('\\' :: c :: rest) = addChar e (readTextBody rules start rest) := by
  have hu : c ≠ 'u' := by
    rintro rfl
    simp [letterEscape?] at h
  rw [readTextBody]
  case x_1 => exact fun _ _ _ _ _ hc => absurd hc hu
  case x_2 => exact hu
  simp only [h]

/-- An escape by the code of a character stands for it, unless the code is half of a pair. -/
lemma readTextBody_code {a b d e : Char} {n : Nat} (hcode : code? a b d e = some n)
    (hn : n < 0xD800) (hrest : rest ≠ []) :
    readTextBody rules start ('\\' :: 'u' :: a :: b :: d :: e :: rest) =
      addChar (Char.ofNat n) (readTextBody rules start rest) := by
  have hhigh : Halves.isHigh n = false := by simp [Halves.isHigh, Nat.not_le.mpr hn]
  have hlow : Halves.isLow n = false := by
    simp [Halves.isLow, Nat.not_le.mpr (hn.trans (by decide : 0xD800 < 0xDC00))]
  have hcharacter : rules.character n = Char.ofNat n := by
    simp [Rules.character, hhigh, hlow]
  have hpair : ∀ x : Option Nat, x.bind (Halves.pair? n) = none := by
    intro x
    cases x with
    | none => rfl
    | some m => simp [Halves.pair?, hhigh]
  rw [readTextBody, if_neg (by simpa using hrest)]
  simp only [hcode, hcharacter, hpair, ite_self]
  split <;> rfl

/-- A character that needs no escape stands for itself. -/
lemma readTextBody_plain (hquote : c ≠ '"') (hslash : c ≠ '\\') (hc : 32 ≤ c.toNat) :
    readTextBody rules start (c :: rest) = addChar c (readTextBody rules start rest) := by
  rw [readTextBody]
  case x_1 => exact hquote
  case x_2 => exact fun heq => absurd heq hslash
  case x_3 => exact fun _ _ _ _ _ heq => absurd heq hslash
  case x_4 => exact fun _ heq => absurd heq hslash
  case x_5 => exact fun _ _ heq => absurd heq hslash
  rw [if_neg (Nat.not_lt.mpr hc)]

/-- The four digits with which a control character is escaped are read as its code. -/
lemma code?_hex : ∀ n < 32, ∃ a b d e, Text.hex 4 n = [a, b, d, e] ∧ code? a b d e = some n := by
  intro n hn
  refine ⟨Text.hexDigit (n / 16 / 16 / 16), Text.hexDigit (n / 16 / 16), Text.hexDigit (n / 16),
    Text.hexDigit n, rfl, ?_⟩
  revert n
  decide

/-- A written character is an escape by a letter, an escape by its code, or the character. -/
lemma escapeChar_cases (c : Char) :
    (∃ letter, letterEscape? letter = some c ∧ escapeChar c = ['\\', letter]) ∨
      (c.toNat < 32 ∧ escapeChar c = '\\' :: 'u' :: Text.hex 4 c.toNat) ∨
      (c ≠ '"' ∧ c ≠ '\\' ∧ 32 ≤ c.toNat ∧ escapeChar c = [c]) := by
  by_cases hquote : c = '"'
  · exact .inl ⟨'"', by rw [hquote]; rfl, by rw [hquote]; rfl⟩
  by_cases hslash : c = '\\'
  · exact .inl ⟨'\\', by rw [hslash]; rfl, by rw [hslash]; rfl⟩
  by_cases hfeed : c = '\n'
  · exact .inl ⟨'n', by rw [hfeed]; rfl, by rw [hfeed]; rfl⟩
  by_cases hreturn : c = '\r'
  · exact .inl ⟨'r', by rw [hreturn]; rfl, by rw [hreturn]; rfl⟩
  by_cases htab : c = '\t'
  · exact .inl ⟨'t', by rw [htab]; rfl, by rw [htab]; rfl⟩
  by_cases hback : c = '\x08'
  · exact .inl ⟨'b', by rw [hback]; rfl, by rw [hback]; rfl⟩
  by_cases hform : c = '\x0c'
  · exact .inl ⟨'f', by rw [hform]; rfl, by rw [hform]; rfl⟩
  unfold escapeChar
  rw [if_neg hquote, if_neg hslash, if_neg hfeed, if_neg hreturn, if_neg htab, if_neg hback,
    if_neg hform]
  by_cases hcontrol : c.toNat < 32
  · exact .inr (.inl ⟨hcontrol, if_pos hcontrol⟩)
  · exact .inr (.inr ⟨hquote, hslash, Nat.not_lt.mp hcontrol, if_neg hcontrol⟩)

/-- However a character is escaped, it is read back, as long as the text goes on. -/
lemma readTextBody_escapeChar (c : Char) (hrest : rest ≠ []) :
    readTextBody rules start (escapeChar c ++ rest) =
      addChar c (readTextBody rules start rest) := by
  rcases escapeChar_cases c with ⟨letter, hletter, heq⟩ | ⟨hc, heq⟩ | ⟨hquote, hslash, hc, heq⟩
  · rw [heq]
    exact readTextBody_letter hletter
  · obtain ⟨a, b, d, e, hhex, hcode⟩ := code?_hex c.toNat hc
    have hsurrogate : c.toNat < 0xD800 := hc.trans (by decide)
    rw [heq, hhex]
    exact (readTextBody_code hcode hsurrogate hrest).trans (by rw [Char.ofNat_toNat])
  · rw [heq]
    exact readTextBody_plain hquote hslash hc

/-- An escaped text is read back up to the quote that closes it. -/
lemma readTextBody_written (s : Text) :
    readTextBody rules start (s.flatMap escapeChar ++ '"' :: rest) = .ok (s, rest) := by
  induction s with
  | nil => rw [List.flatMap_nil, List.nil_append, readTextBody]
  | cons c s ih =>
    rw [List.flatMap_cons, List.append_assoc,
      readTextBody_escapeChar c (by simp), ih]
    rfl

/-! ## Blanks -/

/-- Blanks are skipped up to what does not start with one. -/
lemma skipGap_append {gap s : Text} (hgap : AllIn isGap gap) (hs : StartsOutside isGap s) :
    skipGap (gap ++ s) = s :=
  Text.dropWhile_append_eq hgap hs

/-- Blanks are skipped up to a character that is none. -/
lemma skipGap_append_cons {gap : Text} (hgap : AllIn isGap gap) (hc : isGap c = false) :
    skipGap (gap ++ c :: rest) = c :: rest :=
  skipGap_append hgap (startsOutside_cons.mpr hc)

lemma skipGap_cons (hc : isGap c = false) : skipGap (c :: rest) = c :: rest :=
  skipGap_append_cons allIn_nil hc

/-- A layout whose separators are the comma and the colon with blanks behind them. -/
structure Layout.IsSpacing (l : Layout) : Prop where
  /-- Between items there is a comma with blanks behind it. -/
  comma : ∃ gap, AllIn isGap gap ∧ l.comma = ',' :: gap
  /-- Between a name and its value there is a colon with blanks behind it. -/
  colon : ∃ gap, AllIn isGap gap ∧ l.colon = ':' :: gap

/-- With any indentation there are only blanks around commas and colons. -/
lemma Layout.isSpacing_ofIndent (indent : Option Int) : (ofIndent indent).IsSpacing := by
  have hspace : AllIn isGap [' '] := Text.allIn_singleton.mpr rfl
  cases indent with
  | none => exact ⟨⟨[' '], hspace, rfl⟩, ⟨[' '], hspace, rfl⟩⟩
  | some n => exact ⟨⟨[], allIn_nil, rfl⟩, ⟨[' '], hspace, rfl⟩⟩

lemma Layout.isSpacing_spaced : spaced.IsSpacing := isSpacing_ofIndent none

lemma Layout.isSpacing_tight : tight.IsSpacing :=
  ⟨⟨[], allIn_nil, rfl⟩, ⟨[], allIn_nil, rfl⟩⟩

/-- A line break consists of blanks, with its indentation. -/
lemma Layout.allIn_newline (l : Layout) (level : Nat) : AllIn isGap (l.newline level) := by
  unfold newline
  cases l.step with
  | none => exact allIn_nil
  | some n =>
    refine allIn_cons.mpr ⟨rfl, ?_⟩
    intro c hc
    rw [List.eq_of_mem_replicate hc]
    rfl

variable {l : Layout}

/-- The blanks behind a comma are skipped together with the line break that follows. -/
lemma skipGap_append_newline {gap s : Text} (hgap : AllIn isGap gap) (level : Nat)
    (hs : StartsOutside isGap s) : skipGap (gap ++ (l.newline level ++ s)) = s := by
  rw [← List.append_assoc]
  exact skipGap_append (allIn_append.mpr ⟨hgap, l.allIn_newline level⟩) hs

/-- What stands behind a value in an array or an object does not go on a number. -/
lemma startsOutside_append_gap {gap : Text} (hgap : AllIn isGap gap)
    (hc : isNumberPart c = false) : StartsOutside isNumberPart (gap ++ c :: rest) := by
  cases gap with
  | nil => exact startsOutside_cons.mpr hc
  | cons g gap =>
    have hg := (allIn_cons.mp hgap).1
    simp only [isGap, Bool.or_eq_true, beq_iff_eq] at hg
    rw [List.cons_append, startsOutside_cons]
    rcases hg with ((rfl | rfl) | rfl) | rfl <;> rfl

/-! ## Values -/

mutual

/-- The value that is read where a value has been written. -/
def reread : Json → Json
  | .double x => .double x.reread
  | .array items => .array (rereadItems items)
  | .object fields => .object (mergeFields (rereadFields fields))
  | j => j

/-- The items that are read where items have been written. -/
def rereadItems : List Json → List Json
  | [] => []
  | item :: items => item.reread :: rereadItems items

/-- The fields that are read where fields have been written. -/
def rereadFields : List (Text × Json) → List (Text × Json)
  | [] => []
  | (name, value) :: fields => (name, value.reread) :: rereadFields fields

end

/-- If no name stands twice among fields, they all count. -/
lemma mergeFields_of_nodup {fields : List (Text × Json)} (h : (fields.map Prod.fst).Nodup) :
    mergeFields fields = fields :=
  Catalog.Entries.foldl_revise_of_nodup h

/-- A character with which a number starts. -/
def isNumberStart (c : Char) : Bool := Digits.isAscii c || c == '-' || c == 'N' || c == 'I'

/-- A number starts with its sign, or else with its first digit. -/
lemma exists_head_of_form (negative : Bool) {whole : Text} (hne : whole ≠ [])
    (hwhole : AllIn Digits.isAscii whole) (rest : Text) :
    ∃ c s, Double.signText negative ++ (whole ++ rest) = c :: s ∧ isNumberStart c = true := by
  obtain ⟨c, digits, rfl⟩ := List.exists_cons_of_ne_nil hne
  cases negative with
  | true => exact ⟨'-', _, rfl, rfl⟩
  | false => exact ⟨c, _, rfl, by simp [isNumberStart, (allIn_cons.mp hwhole).1]⟩

/-- A written integer starts as a number does. -/
lemma exists_head_ofInt (i : Int) : ∃ c s, Digits.ofInt i = c :: s ∧ isNumberStart c = true := by
  have h := exists_head_of_form (i < 0) (Digits.ofNat_ne_nil i.natAbs) (Digits.allIn_ofNat _) []
  rwa [List.append_nil, ← ofInt_eq_sign_append] at h

/-- A written floating-point number starts as a number does, or as a word for one. -/
lemma exists_head_writeDouble (x : Double) :
    ∃ c s, writeDouble x = c :: s ∧ isNumberStart c = true := by
  cases x with
  | nan => exact ⟨'N', _, rfl, rfl⟩
  | infinite negative => cases negative <;> exact ⟨_, _, rfl, rfl⟩
  | finite negative mantissa exponent =>
    obtain ⟨f, hf, htext⟩ := exists_form_eq_writeDouble negative mantissa exponent
    rw [htext]
    exact exists_head_of_form negative hf.whole_ne_nil hf.whole _

/-- What no number starts with is not the start of one. -/
lemma ne_of_isNumberStart {d : Char} (hc : isNumberStart c = true)
    (hd : isNumberStart d = false) : c ≠ d := by
  rintro rfl
  exact absurd hc (by simp [hd])

lemma isGap_eq_false_of_isNumberStart (hc : isNumberStart c = true) : isGap c = false := by
  simp [isGap, ne_of_isNumberStart hc (d := ' ') rfl, ne_of_isNumberStart hc (d := '\t') rfl,
    ne_of_isNumberStart hc (d := '\n') rfl, ne_of_isNumberStart hc (d := '\r') rfl]

/-- A written value starts with no blank and no closing bracket. -/
lemma exists_head (l : Layout) (level : Nat) (j : Json) :
    ∃ c s, writeAt l level j = c :: s ∧ isGap c = false ∧ c ≠ ']' := by
  cases j with
  | null => exact ⟨_, _, rfl, by decide, by decide⟩
  | bool b => cases b <;> exact ⟨_, _, rfl, by decide, by decide⟩
  | int i =>
    obtain ⟨c, s, hs, hc⟩ := exists_head_ofInt i
    exact ⟨c, s, by rw [writeAt, hs], isGap_eq_false_of_isNumberStart hc,
      ne_of_isNumberStart hc rfl⟩
  | double x =>
    obtain ⟨c, s, hs, hc⟩ := exists_head_writeDouble x
    exact ⟨c, s, by rw [writeAt, hs], isGap_eq_false_of_isNumberStart hc,
      ne_of_isNumberStart hc rfl⟩
  | text s => exact ⟨'"', _, by rw [writeAt, writeText], by decide, by decide⟩
  | array items => cases items <;> exact ⟨'[', _, by rw [writeAt], by decide, by decide⟩
  | object fields => cases fields <;> exact ⟨'\x7b', _, by rw [writeAt], by decide, by decide⟩

/-- No blank stands before a written value. -/
lemma startsOutside_writeAt (level : Nat) (j : Json) (rest : Text) :
    StartsOutside isGap (writeAt l level j ++ rest) := by
  obtain ⟨c, s, hhead, hgap, -⟩ := exists_head l level j
  rw [hhead, List.cons_append, startsOutside_cons]
  exact hgap

lemma startsOutside_writeText (s rest : Text) : StartsOutside isGap (writeText s ++ rest) :=
  startsOutside_cons.mpr rfl

/-- Behind an item comes a comma or the end of the array, which goes on no number. -/
lemma startsOutside_writeItems (hl : l.IsSpacing) {gap : Text} (hgap : AllIn isGap gap)
    (level : Nat) (items : List Json) :
    StartsOutside isNumberPart (writeItems l level items ++ (gap ++ ']' :: rest)) := by
  cases items with
  | nil => exact startsOutside_append_gap hgap rfl
  | cons item items =>
    obtain ⟨blanks, -, hcomma⟩ := hl.comma
    rw [writeItems, hcomma]
    exact startsOutside_cons.mpr rfl

/-- Behind a field comes a comma or the end of the object, which goes on no number. -/
lemma startsOutside_writeFields (hl : l.IsSpacing) {gap : Text} (hgap : AllIn isGap gap)
    (level : Nat) (fields : List (Text × Json)) :
    StartsOutside isNumberPart (writeFields l level fields ++ (gap ++ '\x7d' :: rest)) := by
  cases fields with
  | nil => exact startsOutside_append_gap hgap rfl
  | cons field fields =>
    obtain ⟨blanks, -, hcomma⟩ := hl.comma
    rw [writeFields, hcomma]
    exact startsOutside_cons.mpr rfl

/-- What starts as a number does is read as a value without parts. -/
lemma readValue_of_isNumberStart {fuel depth : Nat} {s : Text} (hc : isNumberStart c = true) :
    readValue rules (fuel + 1) depth (c :: s) = readPlain (c :: s) := by
  rw [readValue]
  · exact fun heq => absurd heq (by simp)
  · exact fun _ heq => ne_of_isNumberStart hc (d := '"') rfl (List.cons.inj heq).1
  · exact fun _ heq => ne_of_isNumberStart hc (d := '[') rfl (List.cons.inj heq).1
  · exact fun _ heq => ne_of_isNumberStart hc (d := '\x7b') rfl (List.cons.inj heq).1

/-- With this fuel what is written is read back: a value, the items of an array after its opening
bracket, and the fields of an object. -/
structure ReadsBack (rules : Rules) (l : Layout) (fuel : Nat) : Prop where
  /-- A value is read back up to what does not go on a number. -/
  value : ∀ (depth level : Nat) (rest : Text) {j : Json}, j.hasLongInteger = false →
    StartsOutside isNumberPart rest → (writeAt l level j).length ≤ fuel →
    depth + (writeAt l level j).length ≤ rules.deepest →
    readValue rules fuel depth (writeAt l level j ++ rest) = .ok (j.reread, rest)
  /-- The items of an array are read back up to the closing bracket. -/
  items : ∀ (depth level : Nat) (gap rest : Text) {item : Json} {items : List Json},
    AllIn isGap gap → haveLongInteger (item :: items) = false →
    (writeAt l level item).length + (writeItems l level items).length < fuel →
    depth + (writeAt l level item).length + (writeItems l level items).length ≤ rules.deepest →
    readItems rules fuel depth
        (writeAt l level item ++ (writeItems l level items ++ (gap ++ ']' :: rest))) =
      .ok (rereadItems (item :: items), rest)
  /-- The fields of an object are read back up to the closing bracket. -/
  fields : ∀ (depth level : Nat) (gap rest name : Text) {value : Json}
    {fields : List (Text × Json)}, AllIn isGap gap →
    fieldsHaveLongInteger ((name, value) :: fields) = false →
    (writeAt l level value).length + (writeFields l level fields).length < fuel →
    depth + (writeAt l level value).length + (writeFields l level fields).length ≤
      rules.deepest →
    readFields rules fuel depth
        (writeText name ++ (l.colon ++ (writeAt l level value ++
          (writeFields l level fields ++ (gap ++ '\x7d' :: rest))))) =
      .ok (rereadFields ((name, value) :: fields), rest)

namespace ReadsBack

variable {fuel depth level : Nat} {gap : Text}

/-- One more unit of fuel is enough for a value whose parts are read back: the parts of an array or
an object are shorter by the brackets. -/
lemma value_succ (h : ReadsBack rules l fuel) {j : Json} (hj : j.hasLongInteger = false)
    (hrest : StartsOutside isNumberPart rest)
    (hfuel : (writeAt l level j).length ≤ fuel + 1)
    (hdepth : depth + (writeAt l level j).length ≤ rules.deepest) :
    readValue rules (fuel + 1) depth (writeAt l level j ++ rest) = .ok (j.reread, rest) := by
  cases j with
  | null => rfl
  | bool b => cases b <;> rfl
  | int i =>
    have hread := readPlain_int hj hrest
    obtain ⟨c, s, hs, hc⟩ := exists_head_ofInt i
    rw [writeAt, hs, List.cons_append, readValue_of_isNumberStart hc, ← List.cons_append, ← hs,
      hread]
    rfl
  | double x =>
    have hread := readPlain_double x hrest
    obtain ⟨c, s, hs, hc⟩ := exists_head_writeDouble x
    rw [writeAt, hs, List.cons_append, readValue_of_isNumberStart hc, ← List.cons_append, ← hs,
      hread]
    rfl
  | text s =>
    rw [writeAt, writeText, List.cons_append, readValue, List.append_assoc, List.singleton_append,
      readTextBody_written]
    rfl
  | array items =>
    cases items with
    | nil =>
      simp only [writeAt, List.length_cons, List.length_nil] at hdepth
      rw [writeAt, List.cons_append, readValue, if_neg (by omega)]
      rfl
    | cons item items =>
      simp only [writeAt, List.length_cons, List.length_append] at hfuel hdepth
      have hread := h.items (depth + 1) (level + 1) (l.newline level) rest
        (l.allIn_newline level) hj (by omega) (by omega)
      -- the first item does not begin with the bracket that would close an empty array
      obtain ⟨c, s, hhead, -, hclose⟩ := exists_head l (level + 1) item
      simp only [writeAt, List.cons_append, List.append_assoc, List.nil_append]
      rw [readValue, if_neg (by omega),
        skipGap_append (l.allIn_newline _) (startsOutside_writeAt _ item _)]
      rw [hhead, List.cons_append] at hread ⊢
      split
      · next heq => exact absurd (List.cons.inj heq).1 hclose
      · rw [hread]
        rfl
  | object fields =>
    cases fields with
    | nil =>
      simp only [writeAt, List.length_cons, List.length_nil] at hdepth
      rw [writeAt, List.cons_append, readValue, if_neg (by omega)]
      rfl
    | cons field fields =>
      obtain ⟨name, value⟩ := field
      simp only [writeAt, List.length_cons, List.length_append] at hfuel hdepth
      have hread := h.fields (depth + 1) (level + 1) (l.newline level) rest name
        (l.allIn_newline level) hj (by omega) (by omega)
      simp only [writeAt, List.cons_append, List.append_assoc, List.nil_append]
      rw [readValue, if_neg (by omega),
        skipGap_append (l.allIn_newline _) (startsOutside_writeText name _)]
      rw [writeText, List.cons_append] at hread ⊢
      split
      · next heq => exact absurd (List.cons.inj heq).1 (by decide)
      · rw [hread]
        rfl

/-- One more unit of fuel is enough for items: the first is read as a value, and the others are
shorter by the comma. -/
lemma items_succ (hl : l.IsSpacing) (h : ReadsBack rules l fuel) {item : Json}
    {items : List Json} (hgap : AllIn isGap gap) (hitems : haveLongInteger (item :: items) = false)
    (hfuel : (writeAt l level item).length + (writeItems l level items).length < fuel + 1)
    (hdepth : depth + (writeAt l level item).length + (writeItems l level items).length ≤
      rules.deepest) :
    readItems rules (fuel + 1) depth
        (writeAt l level item ++ (writeItems l level items ++ (gap ++ ']' :: rest))) =
      .ok (rereadItems (item :: items), rest) := by
  rw [haveLongInteger, Bool.or_eq_false_iff] at hitems
  have hitem := h.value depth level (writeItems l level items ++ (gap ++ ']' :: rest))
    hitems.1 (startsOutside_writeItems hl hgap level items) (by omega) (by omega)
  rw [readItems, hitem]
  cases items with
  | nil =>
    simp only [writeItems, List.nil_append]
    rw [skipGap_append_cons hgap rfl]
    rfl
  | cons next items =>
    obtain ⟨blanks, hblanks, hcomma⟩ := hl.comma
    have hstart := startsOutside_writeAt (l := l) level next
    simp only [writeItems, hcomma, List.length_cons, List.length_append] at hfuel hdepth
    have hread := h.items depth level gap rest hgap hitems.2 (by omega) (by omega)
    simp only [writeItems, hcomma, List.cons_append, List.append_assoc]
    rw [skipGap_cons rfl]
    simp only [skipGap_append_newline hblanks level (hstart _), hread]
    rfl

/-- One more unit of fuel is enough for fields: the value of the first is read behind its name, and
the others are shorter by the comma. -/
lemma fields_succ (hl : l.IsSpacing) (h : ReadsBack rules l fuel) {name : Text} {value : Json}
    {fields : List (Text × Json)} (hgap : AllIn isGap gap)
    (hfields : fieldsHaveLongInteger ((name, value) :: fields) = false)
    (hfuel : (writeAt l level value).length + (writeFields l level fields).length < fuel + 1)
    (hdepth : depth + (writeAt l level value).length + (writeFields l level fields).length ≤
      rules.deepest) :
    readFields rules (fuel + 1) depth
        (writeText name ++ (l.colon ++ (writeAt l level value ++
          (writeFields l level fields ++ (gap ++ '\x7d' :: rest))))) =
      .ok (rereadFields ((name, value) :: fields), rest) := by
  rw [fieldsHaveLongInteger, Bool.or_eq_false_iff] at hfields
  have hvalue := h.value depth level (writeFields l level fields ++ (gap ++ '\x7d' :: rest))
    hfields.1 (startsOutside_writeFields hl hgap level fields) (by omega) (by omega)
  obtain ⟨spaces, hspaces, hcolon⟩ := hl.colon
  rw [writeText, List.cons_append, readFields, List.append_assoc, List.singleton_append,
    readTextBody_written]
  simp only [hcolon, List.cons_append]
  rw [skipGap_cons rfl]
  simp only [skipGap_append hspaces (startsOutside_writeAt level value _), hvalue]
  cases fields with
  | nil =>
    simp only [writeFields, List.nil_append]
    rw [skipGap_append_cons hgap rfl]
    rfl
  | cons next fields =>
    obtain ⟨name', value'⟩ := next
    obtain ⟨blanks, hblanks, hcomma⟩ := hl.comma
    simp only [writeFields, hcomma, List.length_cons, List.length_append] at hfuel hdepth
    have hread := h.fields depth level gap rest name' hgap hfields.2 (by omega) (by omega)
    simp only [writeFields, hcomma, List.cons_append, List.append_assoc]
    rw [skipGap_cons rfl]
    simp only [skipGap_append_newline hblanks level (startsOutside_writeText name' _), hread]
    rfl

end ReadsBack

/-- Whatever the fuel is, all that is no longer than it is read back. -/
theorem readsBack (hl : l.IsSpacing) (fuel : Nat) : ReadsBack rules l fuel := by
  induction fuel with
  | zero =>
    -- without fuel there are no bounds for items and fields, and no value is that short
    refine ⟨?_, fun _ _ _ _ _ _ _ _ h => absurd h (Nat.not_lt_zero _),
      fun _ _ _ _ _ _ _ _ _ h => absurd h (Nat.not_lt_zero _)⟩
    intro depth level rest j hj hrest hfuel
    obtain ⟨c, s, hhead, -⟩ := exists_head l level j
    rw [hhead] at hfuel
    exact absurd hfuel (Nat.not_succ_le_zero _)
  | succ fuel ih =>
    exact ⟨fun _ _ _ _ => ih.value_succ, fun _ _ _ _ _ _ => ih.items_succ hl,
      fun _ _ _ _ _ _ _ => ih.fields_succ hl⟩

/-- A written value is read as far as its numbers allow. -/
theorem read_write_reread (hl : l.IsSpacing) {j : Json} (hj : j.hasLongInteger = false) :
    read (j.write l) = .ok j.reread := by
  have hstart := startsOutside_writeAt (l := l) 0 j []
  have hback : ReadsBack ⟨fun _ => '\ufffd', (writeAt l 0 j).length⟩ l
      (2 * (writeAt l 0 j).length + 2) := readsBack hl _
  have hread := hback.value 0 0 [] hj Text.startsOutside_nil (by omega) (Nat.zero_add _).le
  rw [List.append_nil] at hstart hread
  have hskip : skipGap (writeAt l 0 j) = writeAt l 0 j := skipGap_append allIn_nil hstart
  simp only [read, readWith, write, hskip, hread]
  rfl

/-! ## Values without numbers -/

/-- A value without numbers in whose objects no name stands twice. -/
inductive Plain : Json → Prop
  | null : Plain .null
  | bool (b : Bool) : Plain (.bool b)
  | text (s : Text) : Plain (.text s)
  | array {items : List Json} (h : ∀ item ∈ items, Plain item) : Plain (.array items)
  | object {fields : List (Text × Json)} (hdistinct : (fields.map Prod.fst).Nodup)
      (h : ∀ field ∈ fields, Plain field.2) : Plain (.object fields)

/-- Items have no integer that is too long if none of them has one. -/
lemma haveLongInteger_eq_false_iff {items : List Json} :
    haveLongInteger items = false ↔ ∀ item ∈ items, item.hasLongInteger = false := by
  induction items with
  | nil => simp [haveLongInteger]
  | cons item items ih => simp [haveLongInteger, ih]

/-- Fields have no integer that is too long if no value among them has one. -/
lemma fieldsHaveLongInteger_eq_false_iff {fields : List (Text × Json)} :
    fieldsHaveLongInteger fields = false ↔ ∀ field ∈ fields, field.2.hasLongInteger = false := by
  induction fields with
  | nil => simp [fieldsHaveLongInteger]
  | cons field fields ih => simp [fieldsHaveLongInteger, ih]

lemma rereadItems_eq_map (items : List Json) : rereadItems items = items.map reread := by
  induction items with
  | nil => rfl
  | cons item items ih => rw [rereadItems, ih, List.map_cons]

lemma rereadFields_eq_map (fields : List (Text × Json)) :
    rereadFields fields = fields.map fun field => (field.1, field.2.reread) := by
  induction fields with
  | nil => rfl
  | cons field fields ih => rw [rereadFields, ih, List.map_cons]

namespace Plain

variable {j : Json}

/-- A value without numbers has no integer that is too long. -/
lemma hasLongInteger_eq_false (h : j.Plain) : j.hasLongInteger = false := by
  induction h with
  | null => rfl
  | bool b => rfl
  | text s => rfl
  | array h ih => rw [hasLongInteger, haveLongInteger_eq_false_iff]; exact ih
  | object hdistinct h ih => rw [hasLongInteger, fieldsHaveLongInteger_eq_false_iff]; exact ih

/-- A value without numbers in whose objects all names differ is read as itself. -/
lemma reread_eq_self (h : j.Plain) : j.reread = j := by
  induction h with
  | null => rfl
  | bool b => rfl
  | text s => rfl
  | @array items h ih =>
    rw [reread, rereadItems_eq_map, List.map_congr_left ih, List.map_id']
  | @object fields hdistinct h ih =>
    have hfields : ∀ field ∈ fields, (field.1, field.2.reread) = field := fun field hfield =>
      congrArg (field.1, ·) (ih field hfield)
    rw [reread, rereadFields_eq_map, List.map_congr_left hfields, List.map_id',
      mergeFields_of_nodup hdistinct]

end Plain

/-- Reading gives back what was written. -/
theorem read_write (hl : l.IsSpacing) {j : Json} (hj : j.Plain) : read (j.write l) = .ok j := by
  rw [read_write_reread hl hj.hasLongInteger_eq_false, hj.reread_eq_self]

end Statechart.Json
