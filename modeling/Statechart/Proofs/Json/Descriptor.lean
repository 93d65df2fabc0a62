import Statechart.Proofs.Json.RoundTrip
import Statechart.Workflow

/-!
# Reading printed workflows

The JSON of workflows and compositions is printed with any indentation.  `Descriptor.ofText?` reads
such a text: first as a JSON value, then as the workflow or the composition that has this JSON.

A state shows its transitions unless it is final and has none, and its kind only if it is final.
The reader takes a field that is not there as no transitions and as no final state, which tells the
forms of a state apart.  A workflow has a state to start in and a composition has none.
-/

namespace Statechart

namespace Json

/-- The characters of a value that is a text. -/
def text? : Json → Option Text
  | .text s => some s
  | _ => none

/-- The catalog that an object shows, where `f` reads its values. -/
def catalog? {α : Type} (f : Json → Option α) : Json → Option (Catalog α)
  | .object fields => (fields.mapM fun e => (f e.2).map (e.1, ·)).map .ofList
  | _ => none

variable {α : Type} {f : Json → Option α} {g : α → Json}

/-- If each value is decoded to what it was made of, so are all entries. -/
lemma mapM_map_eq_some (h : ∀ a, f (g a) = some a) (es : List (Text × α)) :
    (es.map fun e => (e.1, g e.2)).mapM (fun e => (f e.2).map (e.1, ·)) = some es := by
  induction es with
  | nil => rfl
  | cons e es ih =>
    rw [List.map_cons, List.mapM_cons, ih, h]
    rfl

/-- The object of a catalog is decoded to the catalog if its values are decoded. -/
lemma catalog?_ofCatalog (h : ∀ a, f (g a) = some a) (c : Catalog α) :
    catalog? f (ofCatalog g c) = some c := by
  rw [ofCatalog, catalog?, mapM_map_eq_some h, Option.map_some, Catalog.ofList_entries]

/-- In the object of a catalog no name stands twice. -/
lemma plain_ofCatalog (h : ∀ a, (g a).Plain) (c : Catalog α) : (ofCatalog g c).Plain := by
  refine .object ?_ ?_
  · simpa [List.map_map, Function.comp_def] using c.distinct
  · intro field hfield
    obtain ⟨e, -, rfl⟩ := List.mem_map.mp hfield
    exact h e.2

end Json

open Json (catalog? plain_ofCatalog catalog?_ofCatalog)

namespace State

/-- The state that a value shows. -/
def ofJson? (j : Json) : Option State := do
  let on ← (j.field? ['o', 'n']).elim (some ∅) (catalog? Json.text?)
  return { on, isFinal := (j.field? ['t', 'y', 'p', 'e']).isSome }

/-- The forms of a state: one that is not final shows its transitions, a final one shows that it
is final, and its transitions as well if it has any. -/
lemma toJson_cases (s : State) :
    (s.isFinal = false ∧ s.toJson = .object [(['o', 'n'], transitionsJson s.on)]) ∨
      (s.isFinal = true ∧ s.on = ∅ ∧
        s.toJson = .object [(['t', 'y', 'p', 'e'], .text finalWord)]) ∨
      (s.isFinal = true ∧ s.toJson = .object
        [(['o', 'n'], transitionsJson s.on), (['t', 'y', 'p', 'e'], .text finalWord)]) := by
  cases hfinal : s.isFinal with
  | false => exact .inl ⟨rfl, by simp [toJson, hfinal]⟩
  | true =>
    cases hempty : s.on.isEmpty with
    | true =>
      have hon : s.on = ∅ := Catalog.ext (List.isEmpty_iff.mp hempty)
      exact .inr (.inl ⟨rfl, hon, by simp [toJson, hfinal, hempty]⟩)
    | false => exact .inr (.inr ⟨rfl, by simp [toJson, hfinal, hempty]⟩)

/-- The JSON of a state is decoded to it. -/
lemma ofJson?_toJson (s : State) : ofJson? s.toJson = some s := by
  have hon : catalog? Json.text? (transitionsJson s.on) = some s.on :=
    catalog?_ofCatalog (g := Json.text) (fun _ => rfl) s.on
  obtain ⟨on, isFinal⟩ := s
  rcases toJson_cases ⟨on, isFinal⟩ with ⟨rfl, hjson⟩ | ⟨rfl, rfl, hjson⟩ | ⟨rfl, hjson⟩
  · simp [hjson, ofJson?, Json.field?, Catalog.Entries.get?, hon]
  · simp [hjson, ofJson?, Json.field?, Catalog.Entries.get?]
  · simp [hjson, ofJson?, Json.field?, Catalog.Entries.get?, hon]

/-- The JSON of a state has no numbers, and no name stands twice in it. -/
lemma plain_toJson (s : State) : s.toJson.Plain := by
  have hon : (transitionsJson s.on).Plain := plain_ofCatalog .text s.on
  have hkind : (Json.text finalWord).Plain := .text finalWord
  rcases toJson_cases s with ⟨-, hjson⟩ | ⟨-, -, hjson⟩ | ⟨-, hjson⟩ <;> rw [hjson]
  · exact .object (by simp) (by simpa using hon)
  · exact .object (by simp) (by simpa using hkind)
  · exact .object (by simp) (by simpa using ⟨hon, hkind⟩)

end State

namespace Workflow

/-- The workflow that a value shows. -/
def ofJson? (j : Json) : Option Workflow := do
  let id ← (← j.field? ['i', 'd']).text?
  let initial ← (← j.field? "initial".toList).text?
  let states ← catalog? State.ofJson? (← j.field? "states".toList)
  return { id, initial, states }

/-- The JSON of a workflow is decoded to it. -/
lemma ofJson?_toJson (w : Workflow) : ofJson? w.toJson = some w := by
  have hstates : catalog? State.ofJson? (statesJson w.states) = some w.states :=
    catalog?_ofCatalog State.ofJson?_toJson w.states
  simp [toJson, ofJson?, Json.field?, Catalog.Entries.get?, Json.text?, hstates]

/-- The JSON of a workflow has no numbers, and no name stands twice in it. -/
lemma plain_toJson (w : Workflow) : w.toJson.Plain := by
  refine .object (by simp) ?_
  simp only [List.forall_mem_cons]
  exact ⟨.text _, .text _, plain_ofCatalog State.plain_toJson w.states, by simp⟩

end Workflow

namespace Composition

/-- The composition that a value shows. -/
def ofJson? (j : Json) : Option Composition := do
  let id ← (← j.field? ['i', 'd']).text?
  let kind ← (← j.field? "type".toList).text?
  let regions ← catalog? Workflow.ofJson? (← j.field? "states".toList)
  return { id, kind, regions }

/-- The JSON of a composition is decoded to it. -/
lemma ofJson?_toJson (c : Composition) : ofJson? c.toJson = some c := by
  have hregions : catalog? Workflow.ofJson? (.ofCatalog Workflow.toJson c.regions) =
      some c.regions := catalog?_ofCatalog Workflow.ofJson?_toJson c.regions
  simp [toJson, ofJson?, Json.field?, Catalog.Entries.get?, Json.text?, hregions]

/-- The JSON of a composition has no numbers, and no name stands twice in it. -/
lemma plain_toJson (c : Composition) : c.toJson.Plain := by
  refine .object (by simp) ?_
  simp only [List.forall_mem_cons]
  exact ⟨.text _, .text _, plain_ofCatalog Workflow.plain_toJson c.regions, by simp⟩

end Composition

/-- What is printed as JSON. -/
inductive Descriptor where
  /-- A workflow. -/
  | workflow (w : Workflow)
  /-- A composition. -/
  | composition (c : Composition)
  deriving DecidableEq

namespace Descriptor

/-- The JSON of a workflow or a composition. -/
def toJson : Descriptor → Json
  | .workflow w => w.toJson
  | .composition c => c.toJson

/-- What is printed with an indentation. -/
def printed (indent : Option Int) (x : Descriptor) : Text := x.toJson.write (.ofIndent indent)

/-- The workflow or composition that a value shows. -/
def ofJson? (j : Json) : Option Descriptor :=
  match j.field? "initial".toList with
  | some _ => (Workflow.ofJson? j).map .workflow
  | none => (Composition.ofJson? j).map .composition

/-- The workflow or composition that a text shows. -/
def ofText? (s : Text) : Option Descriptor := (Json.read s).toOption.bind ofJson?

/-- The JSON of a descriptor is decoded to it. -/
lemma ofJson?_toJson (x : Descriptor) : ofJson? x.toJson = some x := by
  cases x with
  | workflow w =>
    have hinitial : w.toJson.field? "initial".toList = some (.text w.initial) := rfl
    rw [ofJson?, toJson, hinitial, Workflow.ofJson?_toJson]
    rfl
  | composition c =>
    have hinitial : c.toJson.field? "initial".toList = none := rfl
    rw [ofJson?, toJson, hinitial, Composition.ofJson?_toJson]
    rfl

/-- The JSON of a descriptor has no numbers, and no name stands twice in it. -/
lemma plain_toJson (x : Descriptor) : x.toJson.Plain := by
  cases x with
  | workflow w => exact w.plain_toJson
  | composition c => exact c.plain_toJson

/-- What is printed is read as its JSON, with any indentation. -/
lemma read_printed (x : Descriptor) (indent : Option Int) :
    Json.read (x.printed indent) = .ok x.toJson :=
  Json.read_write (Json.Layout.isSpacing_ofIndent indent) x.plain_toJson

/-- A text that is printed is decoded to what it was printed from. -/
lemma ofText?_of_eq_printed {x : Descriptor} {indent : Option Int} {s : Text}
    (h : s = x.printed indent) : ofText? s = some x := by
  rw [h, ofText?, read_printed]
  exact x.ofJson?_toJson

/-- What is printed is read back with everything in its order, whatever the indentation, so a text
is printed for one workflow or composition only. -/
theorem ofText?_printed (x : Descriptor) (indent : Option Int) :
    ofText? (x.printed indent) = some x ∧
      ∀ (y : Descriptor) (indent' : Option Int), y.printed indent' = x.printed indent → y = x := by
  refine ⟨ofText?_of_eq_printed rfl, ?_⟩
  intro y indent' heq
  have hx : ofText? (x.printed indent) = some x := ofText?_of_eq_printed rfl
  have hy : ofText? (x.printed indent) = some y := ofText?_of_eq_printed heq.symm
  exact Option.some.inj (hy.symm.trans hx)

end Descriptor

end Statechart
