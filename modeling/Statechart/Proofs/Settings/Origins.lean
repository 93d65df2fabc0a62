import Statechart.Proofs.Text.Scan
import Statechart.Settings.Origins

/-!
# The origins that a setting lists

Between two commas of a setting there are only blanks, or there is one origin with blanks around
it.  `Lists` is the grammar of settings in these words, and `read` follows it for every text
(`read_eq_iff_lists`).

What is listed is not empty, not surrounded by blanks and free of commas (`IsOrigin`).  Such texts,
and no others, are read back from a setting in which they are written with commas between them
(`read_join_iff`); so a setting may be replaced by what was read from it.
-/

namespace Statechart.Origins

open Text

/-- A text that a setting can list. -/
structure IsOrigin (origin : Text) : Prop where
  /-- It is not empty. -/
  ne_nil : origin ≠ []
  /-- It neither starts nor ends with a blank. -/
  trimmed : Trimmed origin
  /-- It has no comma. -/
  no_comma : ',' ∉ origin

/-- The origins that a setting lists, by the parts between its commas. -/
inductive Lists : Text → List Text → Prop where
  /-- Blanks list nothing. -/
  | blank {s : Text} (hs : AllIn isBlank s) : Lists s []
  /-- One origin, perhaps with blanks around it. -/
  | origin {a o b : Text} (ha : AllIn isBlank a) (ho : IsOrigin o) (hb : AllIn isBlank b) :
    Lists (a ++ (o ++ b)) [o]
  /-- What stands before a comma and what stands behind it. -/
  | comma {s t : Text} {before behind : List Text} (hs : Lists s before) (ht : Lists t behind) :
    Lists (s ++ ',' :: t) (before ++ behind)

/-- The setting in which origins are written with commas between them. -/
def join (origins : List Text) : Text := List.intercalate [','] origins

variable {s : Text} {origins : List Text}

/-! ## Reading follows the grammar -/

/-- A comma separates what is read before it from what is read behind it. -/
lemma read_append (s t : Text) : read (s ++ ',' :: t) = read s ++ read t := by
  unfold read
  rw [pieces_append, List.map_append, List.filter_append]

/-- A setting without a comma has at most one origin. -/
lemma read_of_not_mem (h : ',' ∉ s) : read s = if trim s = [] then [] else [trim s] := by
  unfold read
  rw [pieces_of_not_mem h]
  split
  · next hnil => simp [hnil]
  · next hne => simp [hne]

lemma lists_read_of_not_mem (h : ',' ∉ s) : Lists s (read s) := by
  rw [read_of_not_mem h]
  split
  · next hnil => exact .blank (trim_eq_nil_iff.mp hnil)
  · next hne =>
    obtain ⟨a, b, hs, ha, hb, htrimmed⟩ := exists_append_trim_append s
    have ho : IsOrigin (trim s) := ⟨hne, htrimmed, fun hmem => h (mem_of_mem_trim hmem)⟩
    have hlists : Lists (a ++ (trim s ++ b)) [trim s] := .origin ha ho hb
    rwa [← List.append_assoc, ← hs] at hlists

/-- Everything that is read is listed. -/
lemma lists_read (s : Text) : Lists s (read s) := by
  induction s using separatorInduction ',' with
  | last s hs => exact lists_read_of_not_mem hs
  | cut first rest hfirst ih =>
    rw [read_append]
    exact .comma (lists_read_of_not_mem hfirst) ih

/-- Everything that is listed is read. -/
lemma Lists.read_eq (h : Lists s origins) : read s = origins := by
  induction h with
  | blank hs =>
    rw [read_of_not_mem (hs.not_mem (by decide)), if_pos (trim_eq_nil_iff.mpr hs)]
  | @origin a o b ha ho hb =>
    have hcomma : ',' ∉ a ++ (o ++ b) := by
      rw [List.mem_append, List.mem_append, not_or, not_or]
      exact ⟨ha.not_mem (by decide), ho.no_comma, hb.not_mem (by decide)⟩
    rw [read_of_not_mem hcomma, trim_append_append ha ho.trimmed hb, if_neg ho.ne_nil]
  | comma _ _ hs ht => rw [read_append, hs, ht]

/-- The origins that are read from a setting are those that it lists. -/
theorem read_eq_iff_lists : read s = origins ↔ Lists s origins :=
  ⟨fun h => h ▸ lists_read s, Lists.read_eq⟩

/-! ## Writing what was read -/

/-- Only origins are listed. -/
lemma Lists.isOrigin (h : Lists s origins) : ∀ o ∈ origins, IsOrigin o := by
  induction h with
  | blank _ => exact fun _ ho => absurd ho List.not_mem_nil
  | origin _ ho _ => exact List.forall_mem_singleton.mpr ho
  | comma _ _ hs ht => exact List.forall_mem_append.mpr ⟨hs, ht⟩

/-- Origins with commas between them are listed. -/
lemma lists_join (h : ∀ o ∈ origins, IsOrigin o) : Lists (join origins) origins := by
  induction origins with
  | nil => exact .blank allIn_nil
  | cons o rest ih =>
    obtain ⟨ho, hrest⟩ := List.forall_mem_cons.mp h
    have hfirst : Lists o [o] := by simpa using Lists.origin allIn_nil ho allIn_nil
    cases rest with
    | nil =>
      rw [join, List.intercalate_singleton]
      exact hfirst
    | cons next rest =>
      rw [join, List.intercalate_cons_cons, List.append_assoc, List.singleton_append]
      exact hfirst.comma (ih hrest)

/-- Texts that are written with commas between them are read back exactly if they are origins. -/
theorem read_join_iff : read (join origins) = origins ↔ ∀ o ∈ origins, IsOrigin o :=
  ⟨fun h => (read_eq_iff_lists.mp h).isOrigin, fun h => (lists_join h).read_eq⟩

/-- Reading finds what a setting lists.  It cuts at commas, finds nothing but origins, and finds
them again when they are written with commas between them. -/
theorem read_append_and_join :
    (∀ (setting : Text) (origins : List Text), read setting = origins ↔ Lists setting origins) ∧
      (∀ a b : Text, read (a ++ ',' :: b) = read a ++ read b) ∧
      (∀ setting : Text, ∀ o ∈ read setting, IsOrigin o) ∧
      ∀ setting : Text, read (join (read setting)) = read setting := by
  have horigins : ∀ setting : Text, ∀ o ∈ read setting, IsOrigin o :=
    fun setting => (lists_read setting).isOrigin
  exact ⟨fun _ _ => read_eq_iff_lists, read_append, horigins,
    fun setting => read_join_iff.mpr (horigins setting)⟩

/-- Blank entries and blanks around entries, of any script, are gone when a setting is written
anew. -/
theorem read_append_and_join_blanks :
    let setting := ",\u00a0https://a.example , ,\u3000\thttps://b.example\u2028,".toList
    let origins := ["https://a.example".toList, "https://b.example".toList]
    read setting = origins ∧ (∀ o ∈ origins, IsOrigin o) ∧ read (join origins) = origins := by
  intro setting origins
  obtain ⟨-, -, horigins, hagain⟩ := read_append_and_join
  have hread : read setting = origins := by decide +kernel
  exact ⟨hread, hread ▸ horigins setting, hread ▸ hagain setting⟩

end Statechart.Origins
