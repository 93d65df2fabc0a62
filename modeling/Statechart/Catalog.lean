import Statechart.Text.Basic

/-!
# Catalogs

A `Catalog α` assigns values to names and remembers the order in which the names first came in.
A value given to a name that is already there replaces the old value and leaves the name in its
place; an erased name that comes back goes to the end.

The one primitive is `Catalog.revise`: everything that adds or changes an entry is an instance
of it, so two laws describe them all.  `names_revise` says how the names change and
`get?_revise` how the values do.
-/

namespace Statechart

namespace Catalog.Entries

variable {α : Type}

/-- Revise the entry for `name`, where `f` is told the value so far; a new name goes to the end. -/
def revise (name : Text) (f : Option α → α) : List (Text × α) → List (Text × α)
  | [] => [(name, f none)]
  | (k, v) :: rest =>
    if k = name then (k, f (some v)) :: rest else (k, v) :: revise name f rest

/-- The value that the first entry for `name` holds. -/
def get? (name : Text) : List (Text × α) → Option α
  | [] => none
  | (k, v) :: rest => if k = name then some v else get? name rest

theorem map_fst_revise (name : Text) (f : Option α → α) (es : List (Text × α)) :
    (revise name f es).map Prod.fst =
      if name ∈ es.map Prod.fst then es.map Prod.fst else es.map Prod.fst ++ [name] := by
  induction es with
  | nil => simp [revise]
  | cons e rest ih =>
    obtain ⟨k, v⟩ := e
    by_cases h : k = name
    · subst h; simp [revise]
    · have h' : ¬ name = k := fun e => h e.symm
      simp only [revise, h, if_false, List.map_cons, ih, List.mem_cons, h', false_or]
      split <;> simp

theorem get?_revise (name other : Text) (f : Option α → α) (es : List (Text × α)) :
    get? other (revise name f es) =
      if other = name then some (f (get? name es)) else get? other es := by
  induction es with
  | nil =>
    by_cases h : other = name
    · subst h; simp [revise, get?]
    · simp [revise, get?, h, Ne.symm h]
  | cons e rest ih =>
    obtain ⟨k, v⟩ := e
    by_cases hk : k = name
    · subst hk
      by_cases h : other = k
      · subst h; simp [revise, get?]
      · simp [revise, get?, h, Ne.symm h]
    · simp only [revise, hk, if_false, get?, ih]
      by_cases ho : k = other
      · subst ho; simp [hk]
      · simp [ho]

theorem isSome_get? (name : Text) (es : List (Text × α)) :
    (get? name es).isSome ↔ name ∈ es.map Prod.fst := by
  induction es with
  | nil => simp [get?]
  | cons e rest ih =>
    obtain ⟨k, v⟩ := e
    by_cases h : k = name
    · subst h; simp [get?]
    · have h' : ¬ name = k := fun e => h e.symm
      simp only [get?, h, if_false, ih, List.map_cons, List.mem_cons, h', false_or]

end Catalog.Entries

/-- Values by name, in the order in which the names came in. -/
structure Catalog (α : Type) where
  /-- The entries in order. -/
  entries : List (Text × α)
  /-- No name occurs twice. -/
  distinct : (entries.map Prod.fst).Nodup

namespace Catalog

variable {α : Type}

/-- Catalogs with the same entries are the same. -/
@[ext] theorem ext {c d : Catalog α} (h : c.entries = d.entries) : c = d := by
  cases c; cases d; cases h; rfl

instance [DecidableEq α] : DecidableEq (Catalog α) := fun c d =>
  if h : c.entries = d.entries then isTrue (ext h)
  else isFalse fun e => h (e ▸ rfl)

/-- The catalog without entries. -/
def empty : Catalog α := ⟨[], List.nodup_nil⟩

instance : EmptyCollection (Catalog α) := ⟨empty⟩

instance : Inhabited (Catalog α) := ⟨empty⟩

/-- The names in order. -/
def names (c : Catalog α) : List Text := c.entries.map Prod.fst

/-- The values in the order of their names. -/
def values (c : Catalog α) : List α := c.entries.map Prod.snd

/-- The number of names. -/
def size (c : Catalog α) : Nat := c.entries.length

/-- Whether the catalog has no entry. -/
def isEmpty (c : Catalog α) : Bool := c.entries.isEmpty

/-- The value of a name. -/
def get? (c : Catalog α) (name : Text) : Option α := Entries.get? name c.entries

/-- Change the entry of a name, where `f` is told the value so far. -/
def revise (c : Catalog α) (name : Text) (f : Option α → α) : Catalog α where
  entries := Entries.revise name f c.entries
  distinct := by
    rw [Entries.map_fst_revise]
    split
    · exact c.distinct
    · next h =>
      rw [List.nodup_append]
      exact ⟨c.distinct, by simp, by rintro a ha b hb rfl; simp_all⟩

/-- Give a name a value. -/
def insert (c : Catalog α) (name : Text) (value : α) : Catalog α := c.revise name fun _ => value

/-- Make sure that a name is there, with `value` if it is new. -/
def ensure (c : Catalog α) (name : Text) (value : α) : Catalog α :=
  c.revise name fun old => old.getD value

/-- Take a name out. -/
def erase (c : Catalog α) (name : Text) : Catalog α where
  entries := c.entries.filter fun e => e.1 ≠ name
  distinct := c.distinct.sublist (List.Sublist.map _ (List.filter_sublist ..))

/-- Enter the pairs of a list one after the other. -/
def ofList (es : List (Text × α)) : Catalog α :=
  es.foldl (fun c e => c.insert e.1 e.2) empty

/-- Apply a function to every value, where the function is told the name as well. -/
def mapWithName {β : Type} (f : Text → α → β) (c : Catalog α) : Catalog β where
  entries := c.entries.map fun e => (e.1, f e.1 e.2)
  distinct := by simpa [List.map_map, Function.comp_def] using c.distinct

/-- Apply a function to every value. -/
def map {β : Type} (f : α → β) (c : Catalog α) : Catalog β := c.mapWithName fun _ => f

/-- Revising a name keeps the order of the names and adds a new one at the end. -/
theorem names_revise (c : Catalog α) (name : Text) (f : Option α → α) :
    (c.revise name f).names = if name ∈ c.names then c.names else c.names ++ [name] :=
  Entries.map_fst_revise name f c.entries

/-- Revising a name changes its own value only. -/
theorem get?_revise (c : Catalog α) (name other : Text) (f : Option α → α) :
    (c.revise name f).get? other =
      if other = name then some (f (c.get? name)) else c.get? other :=
  Entries.get?_revise name other f c.entries

/-- The names are the keys that have a value. -/
theorem isSome_get? (c : Catalog α) (name : Text) : (c.get? name).isSome ↔ name ∈ c.names :=
  Entries.isSome_get? name c.entries

end Catalog

end Statechart
