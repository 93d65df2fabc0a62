import Statechart.Proofs.Service.Answers
import Statechart.Proofs.Text.Utf8

/-!
# Requests that post a text

A client writes an object with one field and sends it in UTF-8.  The service guesses the encoding,
looks for a block of stand-ins that the body does not use, and reads the object; what it finds in
the field is the text that the client wrote, whatever the text is and in whatever layout the object
is written (`Request.Writes.posts`).
-/

namespace Statechart

open Text

/-! ## Encodings and stand-ins -/

namespace Encoding

lemma guess_eq_utf8 {a b : UInt8} (ha : a ≠ 0) (hb : b ≠ 0) (bytes : List UInt8) :
    guess (a :: b :: bytes) = .utf8 := by
  unfold guess
  split
  · next heq =>
    obtain ⟨rfl, rfl, -⟩ := by simpa using heq
    rw [if_neg ha, if_neg hb]
  · next heq =>
    obtain ⟨rfl, rfl, -⟩ := by simpa using heq
    rw [if_neg ha, if_neg hb]
  · rfl

lemma codes?_encode (s : Text) : codes? .utf8 (Utf8.encode s) = some (s.map Char.toNat) := by
  rw [codes?, Utf8.decode_encode]
  rfl

end Encoding

namespace Halves.Block

variable {b : Block} {codes : List Nat} {n : Nat}

/-- A free block holds none of the codes that it is to be free of. -/
lemma contains_freeOf (hn : n ∈ codes) (hlast : n < 0x110000) :
    (freeOf codes).contains n = false := by
  unfold freeOf
  cases hfree : candidates.find? fun b => codes.all fun n => !b.contains n with
  | none =>
    have hbeyond : ¬ beyond.first ≤ n := Nat.not_le.mpr hlast
    simp [contains, hbeyond]
  | some b =>
    have hall : (codes.all fun n => !b.contains n) = true :=
      List.find?_some (p := fun b : Block => codes.all fun n => !b.contains n) hfree
    simpa using List.all_eq_true.mp hall n hn

lemma occursIn_freeOf {s : Text} (hs : ∀ c ∈ s, c.toNat ∈ codes) :
    (freeOf codes).occursIn s = false := by
  rw [occursIn_eq_false_iff]
  intro c hc
  have hvalid : c.toNat < 0xD800 ∨ (0xDFFF < c.toNat ∧ c.toNat < 0x110000) := c.valid
  exact contains_freeOf (hs c hc) (by omega)

/-- Characters stand for themselves. -/
lemma map_character (b : Block) (s : Text) : (s.map Char.toNat).map b.character = s := by
  rw [List.map_map]
  refine (List.map_congr_left fun c _ => ?_).trans (List.map_id s)
  have hvalid : c.toNat < 0xD800 ∨ (0xDFFF < c.toNat ∧ c.toNat < 0x110000) := c.valid
  have hhalf : ¬ (isHigh c.toNat || isLow c.toNat) = true := by
    simp only [isHigh, isLow, Bool.or_eq_true, Bool.and_eq_true, decide_eq_true_eq]
    omega
  simp only [Function.comp_apply, character, if_neg hhalf, Char.ofNat_toNat, id]

end Halves.Block

/-! ## An object with one text -/

namespace Json

variable {rules : Rules} {l : Layout} {name s : Text}

lemma write_textField (l : Layout) (name s : Text) :
    (object [(name, .text s)]).write l =
      '\x7b' :: (l.newline 1 ++ (writeText name ++ (l.colon ++ (writeText s ++
        (l.newline 0 ++ ['\x7d']))))) := by
  rw [write, writeAt, writeAt, writeFields, List.nil_append]

/-- Every character that is written of a text is in what is written, or it is written as an
escape. -/
lemma drawnFrom_write_textField (l : Layout) (name s : Text) :
    DrawnFrom ((object [(name, .text s)]).write l) s := by
  intro c hc
  have hmem : escapeChar c ⊆ (object [(name, .text s)]).write l := by
    intro d hd
    have htext : d ∈ writeText s := by
      rw [writeText]
      exact List.mem_cons_of_mem _ (List.mem_append_left _ (List.mem_flatMap.mpr ⟨c, hc, hd⟩))
    rw [write_textField]
    simp [htext]
  rcases escapeChar_cases c with ⟨letter, hletter, -⟩ | ⟨hcontrol, -⟩ | ⟨-, -, -, heq⟩
  · refine .inr ?_
    unfold letterEscape? at hletter
    split_ifs at hletter with h <;> obtain rfl := Option.some.inj hletter
    · rcases h with rfl | rfl | rfl <;> decide
    all_goals decide
  · exact .inr (by omega)
  · exact .inl (hmem (by rw [heq]; exact List.mem_singleton_self c))

lemma readValue_text (rules : Rules) (fuel depth : Nat) (s rest : Text) :
    readValue rules (fuel + 1) depth (writeText s ++ rest) = .ok (.text s, rest) := by
  rw [writeText, List.cons_append, readValue, List.append_assoc, List.singleton_append,
    readTextBody_written]
  rfl

lemma readFields_text (hl : l.IsSpacing) (rules : Rules) (fuel depth : Nat) {gap : Text}
    (hgap : AllIn isGap gap) (name s rest : Text) :
    readFields rules (fuel + 2) depth
        (writeText name ++ (l.colon ++ (writeText s ++ (gap ++ '\x7d' :: rest)))) =
      .ok ([(name, .text s)], rest) := by
  obtain ⟨spaces, hspaces, hcolon⟩ := hl.colon
  rw [writeText, List.cons_append, readFields, List.append_assoc, List.singleton_append,
    readTextBody_written]
  simp only [hcolon, List.cons_append]
  rw [skipGap_cons rfl]
  simp only [skipGap_append hspaces (startsOutside_writeText s _), readValue_text]
  rw [skipGap_append_cons hgap rfl]
  rfl

/-- An object with one text is read back, however deep brackets may stand. -/
lemma readWith_textField (hl : l.IsSpacing) (hdeepest : 0 < rules.deepest) (name s : Text) :
    readWith rules ((object [(name, .text s)]).write l) = .ok (object [(name, .text s)]) := by
  obtain ⟨fuel, hfuel⟩ : ∃ fuel,
      2 * ((object [(name, .text s)]).write l).length + 2 = fuel + 3 := by
    rw [write_textField, List.length_cons]
    exact ⟨_, rfl⟩
  have hread : readValue rules (fuel + 3) 0 ((object [(name, .text s)]).write l) =
      .ok (object [(name, .text s)], []) := by
    rw [write_textField, readValue, if_neg (Nat.not_le.mpr hdeepest),
      skipGap_append (l.allIn_newline 1) (startsOutside_writeText name _)]
    have hfields := readFields_text hl rules fuel 1 (l.allIn_newline 0) name s []
    rw [writeText, List.cons_append] at hfields ⊢
    split
    · next heq => exact absurd (List.cons.inj heq).1 (by decide)
    · rw [hfields]
      rfl
  have hskip : skipGap ((object [(name, .text s)]).write l) =
      (object [(name, .text s)]).write l := by
    rw [write_textField, skipGap_cons rfl]
  simp only [readWith, hskip, hfuel, hread]
  rfl

end Json

namespace Service

open Halves (Block)

namespace Request

variable {r : Request} {e : Endpoint} {s : Text} {l : Json.Layout}

/-- What a client writes in UTF-8 is found in the body. -/
lemma codes?_of_written (hbody : r.body = (Json.object [(e.field, .text s)]).write l) :
    r.codes? = some (r.body.map Char.toNat) := by
  have hguess : Encoding.guess (Utf8.encode r.body) = .utf8 := by
    obtain ⟨c, rest, hsecond, hc⟩ : ∃ c rest, Encoding.guess (Utf8.encode r.body) =
        Encoding.guess (0x7B :: Utf8.byte c :: rest) ∧ Utf8.byte c ≠ 0 := by
      rw [hbody, Json.write_textField]
      unfold Json.Layout.newline
      cases l.step with
      | none => exact ⟨0x22, _, rfl, by decide⟩
      | some n => exact ⟨0x0A, _, rfl, by decide⟩
    rw [hsecond]
    exact Encoding.guess_eq_utf8 (by decide) hc _
  have hmark : withoutMark (r.body.map Char.toNat) = r.body.map Char.toNat := by
    rw [hbody, Json.write_textField]
    rfl
  simp only [codes?, hguess, Encoding.codes?_encode, Option.map_some, hmark]

/-- The request is what a client makes of a text: its body is an object with the text in the field
of the endpoint, in any layout, and its content type says that it is JSON. -/
structure Writes (r : Request) (e : Endpoint) (s : Text) : Prop where
  verb : r.verb = "POST".toList
  path : Endpoint.ofPath? r.address.plainPath = some e
  type : (r.header? "content-type").map saysJson = some true
  body : ∃ l : Json.Layout, l.IsSpacing ∧ r.body = (Json.object [(e.field, .text s)]).write l

/-- What is written is posted. -/
theorem Writes.posts (h : r.Writes e s) : r.Posts e s := by
  obtain ⟨l, hl, hbody⟩ := h.body
  have hcodes := codes?_of_written hbody
  refine ⟨h.verb, h.path, ?_, ?_⟩
  · have hsome : r.body.isEmpty = false := by
      rw [hbody, Json.write_textField]
      rfl
    have hread : Json.readWith ⟨r.halves.standIn, deepestBody⟩
        ((Json.object [(e.field, .text s)]).write l) = .ok (.object [(e.field, .text s)]) :=
      Json.readWith_textField hl (show 0 < deepestBody by decide) e.field s
    have hcontent : r.content = .json (.object [(e.field, .text s)]) := by
      rw [content, hsome, h.type, hcodes]
      simp only [Option.getD_some, if_true, Content.ofCodes, Block.map_character,
        Bool.false_eq_true, if_false]
      rw [hbody, hread]
    rw [hcontent, fieldOf, Catalog.Entries.get?, if_pos rfl]
  · have hdrawn : DrawnFrom r.body s := hbody ▸ Json.drawnFrom_write_textField l e.field s
    refine Block.occursIn_of_drawnFrom (Block.le_first_freeOf _) ?_ hdrawn
    exact Block.occursIn_freeOf fun c hc =>
      List.mem_append_left _ (List.mem_append_right _ (List.mem_map_of_mem hc))

/-- Every text can be written. -/
theorem writes_posting (e : Endpoint) (s : Text) : (Request.posting e s).Writes e s := by
  have hpath : Endpoint.ofPath? (Address.plainPath
      { scheme := "http".toList, host := "localhost".toList, path := e.path }) = some e := by
    cases e <;> decide +kernel
  exact ⟨rfl, hpath, rfl, .tight, Json.Layout.isSpacing_tight, rfl⟩

end Request

end Service

end Statechart
