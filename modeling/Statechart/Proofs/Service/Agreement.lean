import Statechart.Proofs.Service.Requests

/-!
# The service and the JSON of workflows

The service shows a state through a view: the view is read from the JSON of the state, where a
field that is not there counts as missing (`StateView.ofJson?`), and what is missing is left out
again when the view is written.  A state without transitions keeps an empty list of them on the
way, and one that does not show its transitions does not get them back: what is written is the
JSON of the state (`StateView.toBriefJson_ofState`).

So the service answers with the JSON that is printed for the same text, but for the order of the
outermost fields (`respond_agrees`).
-/

namespace Statechart

namespace Json

/-- Two objects with the same fields, perhaps in another order. -/
inductive SameFields : Json → Json → Prop
  | intro {fields fields' : List (Text × Json)} (h : fields.Perm fields') :
    SameFields (.object fields) (.object fields')

/-- What `f` reads in a field of an object, which may be missing or `null`. -/
def optional? {α : Type} (f : Json → Option α) (name : Text) (j : Json) : Option (Option α) :=
  match j.field? name with
  | none | some .null => some none
  | some value => (f value).map some

/-- A field that was written if there was something to write. -/
lemma optional?_eq {α : Type} {f : Json → Option α} {g : α → Json} {name : Text} {j : Json}
    {x : Option α} (hfield : j.field? name = x.map g) (hread : ∀ a ∈ x, f (g a) = some a)
    (hnull : ∀ a, g a ≠ .null) : optional? f name j = some x := by
  rw [optional?, hfield]
  cases x with
  | none => rfl
  | some a =>
    rw [Option.map_some]
    split
    · next heq => exact absurd heq (by simp)
    · next heq => exact absurd (Option.some.inj heq) (hnull a)
    · next value _ heq =>
      obtain rfl := Option.some.inj heq
      rw [hread a rfl]
      rfl

end Json

namespace StateView

/-- The kind of a state that a value shows: there is one only. -/
def kind? (j : Json) : Option Text := j.text?.filter (· = State.finalWord)

/-- The view that an object shows, if its transitions are texts and its kind is known. -/
def ofJson? (j : Json) : Option StateView :=
  match j with
  | .object fields => do
    let on ← Json.optional? (Json.catalog? Json.text?) ['o', 'n'] (.object fields)
    let kind ← Json.optional? kind? ['t', 'y', 'p', 'e'] (.object fields)
    return { on, kind }
  | _ => none

/-- A view is read back from its JSON without what is missing. -/
lemma ofJson?_toBriefJson {v : StateView} (hkind : ∀ kind ∈ v.kind, kind = State.finalWord) :
    ofJson? v.toBriefJson = some v := by
  have hon : Json.optional? (Json.catalog? Json.text?) ['o', 'n'] v.toBriefJson = some v.on := by
    refine Json.optional?_eq (g := State.transitionsJson) ?_ (fun on _ => ?_) (fun _ => nofun)
    · unfold toBriefJson fields
      cases v.on <;> cases v.kind <;> rfl
    · exact Json.catalog?_ofCatalog (g := Json.text) (fun _ => rfl) on
  have htype : Json.optional? kind? ['t', 'y', 'p', 'e'] v.toBriefJson = some v.kind := by
    refine Json.optional?_eq (g := Json.text) ?_ (fun kind hmem => ?_) (fun _ => nofun)
    · unfold toBriefJson fields
      cases v.on <;> cases v.kind <;> rfl
    · rw [hkind kind hmem]
      rfl
  unfold toBriefJson at hon htype ⊢
  rw [ofJson?, hon, htype]
  rfl

/-- The view of a state is the one that its JSON shows. -/
lemma ofJson?_toJson (s : State) : ofJson? s.toJson = some (ofState s) := by
  rw [← toBriefJson_ofState, ofJson?_toBriefJson]
  intro kind hkind
  unfold ofState at hkind
  simp only at hkind
  split_ifs at hkind
  · exact (Option.some.inj hkind).symm
  · exact absurd hkind (by simp)

end StateView

namespace Service

/-- The service answers with the JSON of the workflow of a document, with the JSON of the machine of
a diagram, and with a diagram or `null`.  Every text can be posted to it. -/
theorem respond_agrees :
    (∀ state : State, StateView.ofJson? state.toJson = some (.ofState state) ∧
      (StateView.ofState state).toBriefJson = state.toJson) ∧
    (∀ (r : Request) (e : Endpoint) (s : Text), r.Writes e s → r.Posts e s) ∧
    (∀ (e : Endpoint) (s : Text), (Request.posting e s).Writes e s) ∧
    ∀ (origins : List Text) (r : Request) (s : Text),
      (r.Posts .workflow s → ∃ j, (respond origins r).1.Answers j ∧
        j.SameFields (Document.workflow s).toJson) ∧
      (r.Posts .machine s → (respond origins r).1.Answers
        (.object [("initial".toList, .text (Machine.ofDiagram s).initial),
          ("states".toList, Workflow.statesJson (Machine.ofDiagram s).states)])) ∧
      (r.Posts .diagram s → (respond origins r).1.Answers
        (.object [("diagram".toList, ((Fence.diagram? s).map Json.text).getD .null)])) := by
  refine ⟨fun state => ⟨StateView.ofJson?_toJson state, StateView.toBriefJson_ofState state⟩,
    fun r e s => Request.Writes.posts, Request.writes_posting, fun origins r s => ⟨?_, ?_, ?_⟩⟩
  · intro h
    refine ⟨_, answers_workflow h origins, .intro ?_⟩
    rw [machineFields, statesJson_eq]
    exact List.perm_append_comm
  · intro h
    rw [← statesJson_eq]
    exact answers_machine h origins
  · exact fun h => answers_diagram h origins

/-- A document with a diagram is posted for its workflow, and another one without a diagram for its
diagram. -/
theorem respond_agrees_posting :
    (∃ j, (respond [] (.posting .workflow "```mermaid\n[*] --> A\n```".toList)).1.Answers j ∧
      j.SameFields (Document.workflow "```mermaid\n[*] --> A\n```".toList).toJson) ∧
    (respond [] (.posting .machine "A --> A".toList)).1.Answers
      (.object [("initial".toList, .text "A".toList),
        ("states".toList, .object [("A".toList,
          .object [("on".toList, .object [("TO_A".toList, .text "A".toList)])])])]) ∧
    (respond [] (.posting .diagram "prose".toList)).1.Answers
      (.object [("diagram".toList, .null)]) := by
  obtain ⟨-, hposts, hwrites, hanswers⟩ := respond_agrees
  have hposting (e : Endpoint) (s : Text) : (Request.posting e s).Posts e s :=
    hposts _ e s (hwrites e s)
  obtain ⟨hworkflow, -, -⟩ :=
    hanswers [] (.posting .workflow "```mermaid\n[*] --> A\n```".toList) _
  obtain ⟨-, hmachine, -⟩ := hanswers [] (.posting .machine "A --> A".toList) _
  obtain ⟨-, -, hdiagram⟩ := hanswers [] (.posting .diagram "prose".toList) _
  have hm : Machine.ofDiagram "A --> A".toList =
      { states := .ofList [("A".toList, ⟨.ofList [("TO_A".toList, "A".toList)], false⟩)]
        initial := "A".toList } := by decide +kernel
  have hd : Fence.diagram? "prose".toList = none := by decide +kernel
  refine ⟨hworkflow (hposting _ _), ?_, ?_⟩
  · have h := hmachine (hposting _ _)
    rw [hm] at h
    exact h
  · have h := hdiagram (hposting _ _)
    rw [hd] at h
    exact h

end Service

end Statechart
