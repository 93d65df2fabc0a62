import Mathlib.Data.List.Forall2
import Statechart.Catalog

/-!
# Entries with related values

Two lists of entries are related by `R` if they have the same names in the same order and `R`
holds of the two values of each name.  What is looked up in them is related as well
(`Related.get?`), and so are the lists when related values are entered under a name
(`Related.revise`).
-/

namespace Statechart.Catalog.Entries

variable {α β : Type} {R : Text → α → β → Prop} {es : List (Text × α)} {fs : List (Text × β)}
  {name : Text}

/-! ## Values that may be absent -/

lemma rel_mono {P Q : α → β → Prop} (hPQ : ∀ a b, P a b → Q a b) {x : Option α} {y : Option β}
    (h : Option.Rel P x y) : Option.Rel Q x y := by
  cases h with
  | none => exact .none
  | some hP => exact .some (hPQ _ _ hP)

lemma rel_getD {P : α → β → Prop} {x : Option α} {y : Option β} {a : α} {b : β}
    (h : Option.Rel P x y) (hab : P a b) : P (x.getD a) (y.getD b) := by
  cases h with
  | none => exact hab
  | some hP => exact hP

lemma rel_orElse {P : α → β → Prop} {x x' : Option α} {y y' : Option β} (h : Option.Rel P x y)
    (h' : Option.Rel P x' y') : Option.Rel P (x <|> x') (y <|> y') := by
  cases h with
  | none => exact h'
  | some hP => exact .some hP

/-! ## Lists of entries -/

/-- The names are the same, and the values of each name are related. -/
def Related (R : Text → α → β → Prop) (es : List (Text × α)) (fs : List (Text × β)) : Prop :=
  List.Forall₂ (fun e f => e.1 = f.1 ∧ R e.1 e.2 f.2) es fs

/-- What is looked up in related entries is related. -/
lemma Related.get? (h : Related R es fs) :
    Option.Rel (R name) (get? name es) (get? name fs) := by
  induction h with
  | nil => exact .none
  | @cons e f es fs hef _ ih =>
    obtain ⟨k, v⟩ := e
    obtain ⟨k', w⟩ := f
    obtain ⟨rfl, hvw⟩ := hef
    simp only at hvw
    rw [Entries.get?, Entries.get?]
    split
    · next hname => exact .some (hname ▸ hvw)
    · exact ih

/-- Entries stay related when related values are entered under a name. -/
lemma Related.revise (h : Related R es fs) {v : α} {w : β} (hvw : R name v w) :
    Related R (Entries.revise name (fun _ => v) es) (Entries.revise name (fun _ => w) fs) := by
  induction h with
  | nil => exact .cons ⟨rfl, hvw⟩ .nil
  | @cons e f es fs hef hrest ih =>
    obtain ⟨k, a⟩ := e
    obtain ⟨k', b⟩ := f
    obtain ⟨rfl, hab⟩ := hef
    simp only at hab
    rw [Entries.revise, Entries.revise]
    split
    · next hname => exact .cons ⟨rfl, hname ▸ hvw⟩ hrest
    · exact .cons ⟨rfl, hab⟩ ih

/-- Related entries that are entered one after the other keep the lists related. -/
lemma Related.foldl_revise {new : List (Text × α)} {new' : List (Text × β)}
    (hnew : Related R new new') (h : Related R es fs) :
    Related R (new.foldl (fun es e => Entries.revise e.1 (fun _ => e.2) es) es)
      (new'.foldl (fun fs f => Entries.revise f.1 (fun _ => f.2) fs) fs) := by
  induction hnew generalizing es fs with
  | nil => exact h
  | @cons e f _ _ hef _ ih =>
    rw [List.foldl_cons, List.foldl_cons, ← hef.1]
    exact ih (h.revise hef.2)

/-- The entries with names of some kind are related, and so is their kind. -/
lemma Related.filter_and (h : Related R es fs) (p : Text → Bool) :
    Related (fun k v w => p k = true ∧ R k v w) (es.filter fun e => p e.1)
      (fs.filter fun f => p f.1) := by
  induction h with
  | nil => exact .nil
  | @cons e f es fs hef _ ih =>
    rw [List.filter_cons, List.filter_cons, ← hef.1]
    split
    · next hname => exact .cons ⟨hef.1, hname, hef.2⟩ ih
    · exact ih

/-- The entries with names of some kind are related. -/
lemma Related.filter (h : Related R es fs) (p : Text → Bool) :
    Related R (es.filter fun e => p e.1) (fs.filter fun f => p f.1) :=
  (h.filter_and p).imp fun _ _ he => ⟨he.1, he.2.2⟩

/-- Of the names of some kind, the last one is the same in both lists. -/
lemma Related.getLast?_filter (h : Related R es fs) (p : Text → Bool) :
    Option.Rel (fun e f => p e.1 = true ∧ R e.1 e.2 f.2)
      (es.filter fun e => p e.1).getLast? (fs.filter fun f => p f.1).getLast? := by
  have hreverse := List.rel_reverse (h.filter_and p)
  rw [← List.head?_reverse, ← List.head?_reverse]
  generalize (es.filter fun e => p e.1).reverse = x, (fs.filter fun f => p f.1).reverse = y
    at hreverse ⊢
  cases hreverse with
  | nil => exact .none
  | cons hef _ => exact .some hef.2

end Statechart.Catalog.Entries
