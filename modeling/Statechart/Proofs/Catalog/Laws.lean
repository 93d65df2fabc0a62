import Mathlib.Data.List.Basic
import Statechart.Catalog

/-!
# Laws of catalogs

What each operation on a catalog does to its two views, the names in order (`Catalog.names`) and the
value of a name (`Catalog.get?`).  The two views tell a catalog apart from every other one
(`Catalog.ext_get?`).
-/

namespace Statechart.Catalog

variable {α β : Type}

/-- No name occurs twice. -/
lemma nodup_names (c : Catalog α) : c.names.Nodup := c.distinct

@[simp] lemma names_empty : (∅ : Catalog α).names = [] := rfl

@[simp] lemma get?_empty (name : Text) : (∅ : Catalog α).get? name = none := rfl

/-- A name has no value if and only if it is not there. -/
lemma get?_eq_none_iff {c : Catalog α} {name : Text} : c.get? name = none ↔ name ∉ c.names := by
  rw [← isSome_get?, Option.not_isSome_iff_eq_none]

/-- A name that has a value is there. -/
lemma mem_names_of_get?_eq_some {c : Catalog α} {name : Text} {a : α} (h : c.get? name = some a) :
    name ∈ c.names := by
  rw [← isSome_get?, h]
  rfl

/-- A name that is there has a value. -/
lemma exists_get?_eq_some {c : Catalog α} {name : Text} (h : name ∈ c.names) :
    ∃ a, c.get? name = some a :=
  Option.isSome_iff_exists.mp ((isSome_get? c name).mpr h)

/-- The value of a name stands in an entry. -/
lemma mem_entries_of_get?_eq_some {c : Catalog α} {name : Text} {a : α}
    (h : c.get? name = some a) : (name, a) ∈ c.entries := by
  suffices hes : ∀ es : List (Text × α), Entries.get? name es = some a → (name, a) ∈ es from
    hes c.entries h
  intro es hes
  induction es with
  | nil => exact absurd hes (by simp [Entries.get?])
  | cons e es ih =>
    obtain ⟨k, v⟩ := e
    rw [Entries.get?] at hes
    split at hes
    · next hk =>
      obtain rfl := Option.some.inj hes
      rw [hk]
      exact List.mem_cons_self
    · exact List.mem_cons_of_mem _ (ih hes)

/-- The entry of a name is the one that holds its value. -/
lemma get?_eq_some_iff {c : Catalog α} {name : Text} {a : α} :
    c.get? name = some a ↔ (name, a) ∈ c.entries := by
  refine ⟨mem_entries_of_get?_eq_some, fun hmem => ?_⟩
  suffices hes : ∀ es : List (Text × α), (es.map Prod.fst).Nodup → (name, a) ∈ es →
      Entries.get? name es = some a from hes c.entries c.distinct hmem
  intro es hdistinct hmem
  induction es with
  | nil => exact absurd hmem List.not_mem_nil
  | cons e es ih =>
    obtain ⟨k, v⟩ := e
    rw [List.map_cons, List.nodup_cons] at hdistinct
    rw [Entries.get?]
    rcases List.mem_cons.mp hmem with heq | hrest
    · obtain ⟨rfl, rfl⟩ := Prod.mk.inj heq
      rw [if_pos rfl]
    · have hk : k ≠ name := by
        rintro rfl
        exact hdistinct.1 (List.mem_map.mpr ⟨_, hrest, rfl⟩)
      rw [if_neg hk]
      exact ih hdistinct.2 hrest

/-- What is collected from the entries of one name is what its value gives. -/
lemma flatMap_entries_eq (c : Catalog α) (name : Text) (f : α → List β) :
    (c.entries.flatMap fun e => if e.1 = name then f e.2 else []) =
      ((c.get? name).map f).getD [] := by
  suffices hes : ∀ es : List (Text × α), (es.map Prod.fst).Nodup →
      (es.flatMap fun e => if e.1 = name then f e.2 else []) =
        ((Entries.get? name es).map f).getD [] from hes c.entries c.distinct
  intro es hdistinct
  induction es with
  | nil => rfl
  | cons e es ih =>
    obtain ⟨k, v⟩ := e
    rw [List.map_cons, List.nodup_cons] at hdistinct
    rw [List.flatMap_cons, ih hdistinct.2, Entries.get?]
    by_cases hk : k = name
    · subst hk
      have hnone : Entries.get? k es = none := by
        rw [← Option.not_isSome_iff_eq_none, Entries.isSome_get?]
        exact hdistinct.1
      simp [hnone]
    · simp [hk]

/-- Revising the entry of a name brings this name in and takes none out. -/
lemma mem_names_revise {c : Catalog α} {name other : Text} {f : Option α → α} :
    other ∈ (c.revise name f).names ↔ other ∈ c.names ∨ other = name := by
  rw [names_revise]
  by_cases h : name ∈ c.names
  · rw [if_pos h]
    constructor
    · exact .inl
    · rintro (hmem | rfl)
      · exact hmem
      · exact h
  · rw [if_neg h, List.mem_append, List.mem_singleton]

/-- A name that is made sure of goes to the end if it is new. -/
lemma names_ensure (c : Catalog α) (name : Text) (value : α) :
    (c.ensure name value).names = if name ∈ c.names then c.names else c.names ++ [name] :=
  names_revise c name _

/-- A name that is made sure of keeps the value it had, and no other name changes. -/
lemma get?_ensure (c : Catalog α) (name other : Text) (value : α) :
    (c.ensure name value).get? other =
      if other = name then some ((c.get? name).getD value) else c.get? other :=
  get?_revise c name other _

/-- A name that is given a value goes to the end if it is new. -/
lemma names_insert (c : Catalog α) (name : Text) (value : α) :
    (c.insert name value).names = if name ∈ c.names then c.names else c.names ++ [name] :=
  names_revise c name _

/-- A name that is given a value has it, and no other name changes. -/
lemma get?_insert (c : Catalog α) (name other : Text) (value : α) :
    (c.insert name value).get? other = if other = name then some value else c.get? other :=
  get?_revise c name other _

/-- Changing every value leaves the names as they are. -/
@[simp] lemma names_mapWithName (f : Text → α → β) (c : Catalog α) :
    (c.mapWithName f).names = c.names := by
  simp [names, mapWithName]

/-- Where every value is changed, the value of a name is the old one changed. -/
lemma get?_mapWithName (f : Text → α → β) (c : Catalog α) (name : Text) :
    (c.mapWithName f).get? name = (c.get? name).map (f name) := by
  suffices h : ∀ es : List (Text × α), Entries.get? name (es.map fun e => (e.1, f e.1 e.2)) =
      (Entries.get? name es).map (f name) from h c.entries
  intro es
  induction es with
  | nil => rfl
  | cons e es ih =>
    obtain ⟨k, v⟩ := e
    by_cases hk : k = name
    · subst hk; simp [Entries.get?]
    · simp [Entries.get?, hk, ih]

/-- A list of entries without a name that occurs twice is known by its names and their values. -/
lemma Entries.ext_get? {es fs : List (Text × α)} (hdistinct : (es.map Prod.fst).Nodup)
    (hnames : es.map Prod.fst = fs.map Prod.fst)
    (hget : ∀ name, Entries.get? name es = Entries.get? name fs) : es = fs := by
  induction es generalizing fs with
  | nil => exact (List.map_eq_nil_iff.mp hnames.symm).symm
  | cons e es ih =>
    cases fs with
    | nil => exact absurd hnames (by simp)
    | cons f fs =>
      obtain ⟨k, v⟩ := e
      obtain ⟨k', v'⟩ := f
      rw [List.map_cons, List.map_cons, List.cons.injEq] at hnames
      obtain ⟨rfl, htail⟩ := hnames
      rw [List.map_cons, List.nodup_cons] at hdistinct
      have hv : v = v' := by simpa [Entries.get?] using hget k
      -- the name at the head occurs in neither tail, so it has no value there
      have hrest : ∀ name, Entries.get? name es = Entries.get? name fs := by
        intro name
        by_cases hname : k = name
        · subst hname
          have hes : Entries.get? k es = none := by
            rw [← Option.not_isSome_iff_eq_none, Entries.isSome_get?]
            exact hdistinct.1
          have hfs : Entries.get? k fs = none := by
            rw [← Option.not_isSome_iff_eq_none, Entries.isSome_get?, ← htail]
            exact hdistinct.1
          rw [hes, hfs]
        · simpa [Entries.get?, hname] using hget name
      rw [hv, ih hdistinct.2 htail hrest]

/-- Catalogs with the same names in the same order and the same values are the same. -/
lemma ext_get? {c d : Catalog α} (hnames : c.names = d.names)
    (hget : ∀ name, c.get? name = d.get? name) : c = d :=
  Catalog.ext (Entries.ext_get? c.distinct hnames hget)

/-! ## Lists of entries -/

/-- The entry of a new name goes to the end. -/
lemma Entries.revise_of_not_mem {es : List (Text × α)} {name : Text}
    (h : name ∉ es.map Prod.fst) (f : Option α → α) :
    Entries.revise name f es = es ++ [(name, f none)] := by
  induction es with
  | nil => rfl
  | cons e es ih =>
    obtain ⟨k, v⟩ := e
    rw [List.map_cons, List.mem_cons, not_or] at h
    rw [Entries.revise, if_neg (Ne.symm h.1), ih h.2]
    rfl

/-- Entries under names of their own come in one behind the other. -/
lemma Entries.foldl_revise_of_nodup {es fs : List (Text × α)}
    (h : ((es ++ fs).map Prod.fst).Nodup) :
    fs.foldl (fun es e => Entries.revise e.1 (fun _ => e.2) es) es = es ++ fs := by
  induction fs generalizing es with
  | nil => rw [List.foldl_nil, List.append_nil]
  | cons f fs ih =>
    have hassoc : es ++ f :: fs = es ++ [f] ++ fs := by simp
    have hnew : f.1 ∉ es.map Prod.fst := by
      rw [List.map_append, List.map_cons, List.nodup_append] at h
      exact fun hmem => h.2.2 f.1 hmem f.1 List.mem_cons_self rfl
    rw [List.foldl_cons, Entries.revise_of_not_mem hnew, hassoc]
    exact ih (hassoc ▸ h)

/-- Giving values to names one after the other revises the entries one after the other. -/
lemma entries_foldl_insert (es : List (Text × α)) (c : Catalog α) :
    (es.foldl (fun c e => c.insert e.1 e.2) c).entries =
      es.foldl (fun es e => Entries.revise e.1 (fun _ => e.2) es) c.entries := by
  induction es generalizing c with
  | nil => rfl
  | cons e es ih => exact ih (c.insert e.1 e.2)

/-- Entries under names of their own are the entries of a catalog. -/
lemma entries_ofList {es : List (Text × α)} (h : (es.map Prod.fst).Nodup) :
    (ofList es).entries = es := by
  calc (ofList es).entries
      = es.foldl (fun es e => Entries.revise e.1 (fun _ => e.2) es) [] :=
        entries_foldl_insert es empty
    _ = es := Entries.foldl_revise_of_nodup h

/-- A catalog is what its entries make when they are entered one after the other. -/
lemma ofList_entries (c : Catalog α) : ofList c.entries = c :=
  Catalog.ext (entries_ofList c.distinct)

end Statechart.Catalog
