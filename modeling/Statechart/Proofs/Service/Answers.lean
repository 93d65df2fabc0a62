import Statechart.Proofs.Diagram.Characters
import Statechart.Proofs.Document.Enclosed
import Statechart.Proofs.Json.Descriptor
import Statechart.Service.Api

/-!
# What the service answers about a machine

`Request.Posts` says that a request posts a text to an endpoint, `Response.Answers` that the body
of a response is a value in JSON, and `Response.Shows` that it shows a machine.  The service
answers each request for the workflow of a document, for its diagram, and for the machine of a
diagram.  An answer could only fail if half of a surrogate pair stood in it, and a machine has no
characters but those of its diagram and of ASCII.

The main result, `Document.workflow_enclose`, is about a document that is made around a diagram.
Its workflow is the machine of the diagram, and the service shows this machine for both.
-/

namespace Statechart

open Text

/-! ## Stand-ins -/

namespace Halves.Block

variable {b : Block} {d s : Text}

lemma le_first_freeOf (codes : List Nat) : 128 ≤ (freeOf codes).first := by
  unfold freeOf
  cases hfree : candidates.find? fun b => codes.all fun n => !b.contains n with
  | none => decide
  | some b =>
    obtain ⟨k, -, rfl⟩ := List.mem_map.mp (List.mem_of_find?_eq_some hfree)
    change 128 ≤ 0x40000 + count * k
    omega

lemma occursIn_eq_false_iff : b.occursIn s = false ↔ ∀ c ∈ s, b.contains c.toNat = false := by
  simp [occursIn]

/-- A text without stand-ins is a source of such texts. -/
lemma occursIn_of_drawnFrom (hb : 128 ≤ b.first) (hd : b.occursIn d = false)
    (hs : DrawnFrom d s) : b.occursIn s = false := by
  rw [occursIn_eq_false_iff] at hd ⊢
  intro c hc
  rcases hs c hc with hmem | hascii
  · exact hd c hmem
  · have hlt : ¬ b.first ≤ c.toNat := by omega
    simp [contains, hlt]

lemma occursIn_of_ascii (hb : 128 ≤ b.first) (hs : s.all (·.toNat < 128) = true) :
    b.occursIn s = false :=
  occursIn_of_drawnFrom (d := []) hb rfl fun c hc =>
    .inr (of_decide_eq_true (List.all_eq_true.mp hs c hc))

end Halves.Block

namespace Json

open Halves (Block)

variable {b : Block}

lemma settledName_eq_self {name : Text} (h : b.occursIn name = false) :
    settledName b name = name := by
  rw [Block.occursIn_eq_false_iff] at h
  unfold settledName
  induction name with
  | nil => rfl
  | cons c name ih =>
    obtain ⟨hc, hname⟩ := List.forall_mem_cons.mp h
    rw [List.flatMap_cons, ih hname, if_neg (by rw [hc]; decide)]
    rfl

mutual

/-- A value without stand-ins can be written as it is. -/
theorem settled?_of_not_holds : ∀ j : Json, j.holds b = false → j.settled? b = some j
  | .null, _ => rfl
  | .bool _, _ => rfl
  | .int _, _ => rfl
  | .double _, _ => rfl
  | .text s, h => by
    rw [holds] at h
    rw [settled?, h]
    rfl
  | .array items, h => by
    rw [holds] at h
    rw [settled?, settledItems?_of_not_holds items h]
    rfl
  | .object fields, h => by
    rw [holds] at h
    rw [settled?, settledFields?_of_not_holds fields h]
    rfl

theorem settledItems?_of_not_holds :
    ∀ items : List Json, someHolds b items = false → settledItems? b items = some items
  | [], _ => rfl
  | item :: items, h => by
    rw [someHolds, Bool.or_eq_false_iff] at h
    rw [settledItems?, settled?_of_not_holds item h.1, settledItems?_of_not_holds items h.2]
    rfl

theorem settledFields?_of_not_holds : ∀ fields : List (Text × Json),
    someFieldHolds b fields = false → settledFields? b fields = some fields
  | [], _ => rfl
  | (name, value) :: fields, h => by
    rw [someFieldHolds, Bool.or_eq_false_iff, Bool.or_eq_false_iff] at h
    rw [settledFields?, settledName_eq_self h.1.1, settled?_of_not_holds value h.1.2,
      settledFields?_of_not_holds fields h.2]
    rfl

end

lemma someFieldHolds_eq_false_iff {fields : List (Text × Json)} :
    someFieldHolds b fields = false ↔
      ∀ field ∈ fields, b.occursIn field.1 = false ∧ field.2.holds b = false := by
  induction fields with
  | nil => simp [someFieldHolds]
  | cons field fields ih =>
    rw [someFieldHolds, Bool.or_eq_false_iff, Bool.or_eq_false_iff, ih, List.forall_mem_cons]

lemma holds_ofCatalog {α : Type} {f : α → Json} {c : Catalog α}
    (h : ∀ e ∈ c.entries, b.occursIn e.1 = false ∧ (f e.2).holds b = false) :
    (ofCatalog f c).holds b = false := by
  rw [ofCatalog, holds, someFieldHolds_eq_false_iff]
  intro field hfield
  obtain ⟨e, he, rfl⟩ := List.mem_map.mp hfield
  exact h e he

end Json

/-! ## Machines as the service shows them -/

lemma StateView.toBriefJson_ofState (s : State) : (ofState s).toBriefJson = s.toJson := by
  unfold toBriefJson fields ofState State.toJson
  congr 1
  split_ifs <;> rfl

namespace Service

open Halves (Block)

lemma statesJson_eq (m : Machine) : statesJson m = Workflow.statesJson m.states := by
  unfold statesJson Workflow.statesJson
  simp only [StateView.toBriefJson_ofState]

variable {b : Block} {m : Machine}

lemma holds_state (hb : 128 ≤ b.first) {state : State}
    (h : ∀ s ∈ state.texts, b.occursIn s = false) : state.toJson.holds b = false := by
  have hon : (State.transitionsJson state.on).holds b = false := by
    apply Json.holds_ofCatalog
    intro e he
    rw [Json.holds]
    exact ⟨h e.1 (List.mem_flatMap.mpr ⟨e, he, by simp⟩),
      h e.2 (List.mem_flatMap.mpr ⟨e, he, by simp⟩)⟩
  have hword : ∀ s : Text, s.all (·.toNat < 128) = true → b.occursIn s = false :=
    fun s => Block.occursIn_of_ascii hb
  have hfinal : (Json.text State.finalWord).holds b = false := hword _ (by decide)
  rcases state.toJson_cases with ⟨-, hjson⟩ | ⟨-, -, hjson⟩ | ⟨-, hjson⟩ <;>
    rw [hjson, Json.holds, Json.someFieldHolds_eq_false_iff]
  · simpa using ⟨hword _ (by decide), hon⟩
  · simpa using ⟨hword _ (by decide), hfinal⟩
  · simpa using ⟨⟨hword _ (by decide), hon⟩, hword _ (by decide), hfinal⟩

lemma holds_machineFields (hb : 128 ≤ b.first) (h : ∀ s ∈ m.texts, b.occursIn s = false) :
    ∀ field ∈ machineFields m, b.occursIn field.1 = false ∧ field.2.holds b = false := by
  have hword : ∀ s : Text, s.all (·.toNat < 128) = true → b.occursIn s = false :=
    fun s => Block.occursIn_of_ascii hb
  have hinitial : (Json.text m.initial).holds b = false := h m.initial List.mem_cons_self
  have hstates : (statesJson m).holds b = false := by
    rw [statesJson_eq]
    apply Json.holds_ofCatalog
    intro e he
    have htexts : ∀ s ∈ e.1 :: e.2.texts, b.occursIn s = false := fun s hs =>
      h s (List.mem_cons_of_mem _ (List.mem_flatMap.mpr ⟨e, he, hs⟩))
    exact ⟨htexts e.1 List.mem_cons_self,
      holds_state hb fun s hs => htexts s (List.mem_cons_of_mem _ hs)⟩
  unfold machineFields
  simp only [List.forall_mem_cons]
  exact ⟨⟨hword _ (by decide), hinitial⟩, ⟨hword _ (by decide), hstates⟩, by simp⟩

lemma plain_machineFields (m : Machine) : ∀ field ∈ machineFields m, field.2.Plain := by
  unfold machineFields
  rw [statesJson_eq]
  simp only [List.forall_mem_cons]
  exact ⟨.text _, Json.plain_ofCatalog State.plain_toJson m.states, by simp⟩

/-! ## Requests and responses -/

/-- The request posts a text to an endpoint, in the field of the body that the endpoint takes.  The
text stands for itself: no character of it is the stand-in of half of a surrogate pair. -/
structure Request.Posts (r : Request) (e : Endpoint) (s : Text) : Prop where
  verb : r.verb = "POST".toList
  path : Endpoint.ofPath? r.address.plainPath = some e
  field : fieldOf e.field r.content = .ok s
  whole : r.halves.occursIn s = false

/-- The request with which a client posts a text. -/
def Request.posting (e : Endpoint) (s : Text) : Request where
  method := "POST".toList
  address := { scheme := "http".toList, host := "localhost".toList, path := e.path }
  headers := [("Content-Type".toList, "application/json".toList)]
  body := (Json.object [(e.field, .text s)]).write .tight

/-- The response is a success, and its body is a value in JSON. -/
structure Response.Answers (response : Response) (j : Json) : Prop where
  status : response.status = 200
  json : Json.read response.body = .ok j

/-- The response is a success and shows a machine as JSON: where it starts, and its states. -/
structure Response.Shows (response : Response) (m : Machine) : Prop where
  status : response.status = 200
  json : ∃ j, Json.read response.body = .ok j ∧
    j.field? "initial".toList = some (.text m.initial) ∧
    j.field? "states".toList = some (Workflow.statesJson m.states)

/-- What can be written is answered, in the shortest layout. -/
lemma respond_of_posts {r : Request} {e : Endpoint} {s : Text} (h : r.Posts e s)
    (he : e ≠ .health) (hanswer : (e.answer s).1.holds r.halves = false) (origins : List Text) :
    (respond origins r).1.status = 200 ∧
      (respond origins r).1.body = (e.answer s).1.write .tight := by
  have hquestion : CrossOrigin.question? r = none := by
    unfold CrossOrigin.question?
    rw [if_neg (by rw [h.verb]; decide)]
  have hmethod : e.method = "POST".toList := by
    cases e with
    | health => exact absurd rfl he
    | workflow => rfl
    | diagram => rfl
    | machine => rfl
  have hrespond : (route r).1 = .ofJson 200 (e.answer s).1 := by
    simp only [route, h.path, h.verb, hmethod, if_true, Endpoint.respond, if_neg he, h.field,
      Json.settled?_of_not_holds _ hanswer]
    rfl
  have hhead : r.verb ≠ "HEAD".toList := by
    rw [h.verb]
    decide
  have hstatus : (Response.ofJson 200 (e.answer s).1).status ≠ 500 := by simp [Response.ofJson]
  simp only [respond, hquestion, hrespond, if_neg hhead, if_neg hstatus]
  exact ⟨rfl, rfl⟩

/-- An answer that can be written and read back is the body of the response. -/
lemma answers_of_posts {r : Request} {e : Endpoint} {s : Text} {j : Json} (h : r.Posts e s)
    (he : e ≠ .health) (hanswer : (e.answer s).1 = j) (hholds : j.holds r.halves = false)
    (hplain : j.Plain) (origins : List Text) : (respond origins r).1.Answers j := by
  subst hanswer
  obtain ⟨hstatus, hbody⟩ := respond_of_posts h he hholds origins
  refine ⟨hstatus, ?_⟩
  rw [hbody]
  exact Json.read_write Json.Layout.isSpacing_tight hplain

/-- The fields of a machine, and others that can be written, are such an answer. -/
lemma answers_of_machineFields {r : Request} {e : Endpoint} {s : Text} (h : r.Posts e s)
    (others : List (Text × Json)) (he : e ≠ .health)
    (hanswer : (e.answer s).1 = .object (machineFields m ++ others))
    (hdistinct : ((machineFields m ++ others).map Prod.fst).Nodup)
    (hdrawn : ∀ t ∈ m.texts, DrawnFrom s t)
    (hothers : ∀ field ∈ others,
      r.halves.occursIn field.1 = false ∧ field.2.holds r.halves = false ∧ field.2.Plain)
    (origins : List Text) :
    (respond origins r).1.Answers (.object (machineFields m ++ others)) := by
  refine answers_of_posts h he hanswer ?_ (.object hdistinct ?_) origins
  · have htexts : ∀ t ∈ m.texts, r.halves.occursIn t = false := fun t ht =>
      Block.occursIn_of_drawnFrom (Block.le_first_freeOf _) h.whole (hdrawn t ht)
    rw [Json.holds, Json.someFieldHolds_eq_false_iff]
    intro field hfield
    rcases List.mem_append.mp hfield with hmem | hmem
    · exact holds_machineFields (Block.le_first_freeOf _) htexts field hmem
    · exact ⟨(hothers field hmem).1, (hothers field hmem).2.1⟩
  · intro field hfield
    rcases List.mem_append.mp hfield with hmem | hmem
    · exact plain_machineFields m field hmem
    · exact (hothers field hmem).2.2

/-- The machine of a diagram is answered. -/
theorem answers_machine {r : Request} {d : Text} (h : r.Posts .machine d) (origins : List Text) :
    (respond origins r).1.Answers (machineJson (Machine.ofDiagram d)) := by
  refine answers_of_machineFields h [] (by decide) rfl ?_ (Machine.drawnFrom_ofDiagram d) ?_ origins
  · simp [machineFields]
  · exact List.forall_mem_nil _

/-- The workflow of a document is answered. -/
theorem answers_workflow {r : Request} {markdown : Text} (h : r.Posts .workflow markdown)
    (origins : List Text) :
    (respond origins r).1.Answers (workflowJson (Document.workflow markdown)) := by
  have hid : (Document.workflow markdown).id = Workflow.default.id := by
    unfold Document.workflow
    cases Document.describes markdown <;> rfl
  have hword : ∀ s : Text, s.all (·.toNat < 128) = true → r.halves.occursIn s = false :=
    fun s => Block.occursIn_of_ascii (Block.le_first_freeOf _)
  refine answers_of_machineFields h [("id".toList, .text (Document.workflow markdown).id)]
    (by decide) rfl ?_ (Document.drawnFrom_workflow markdown) ?_ origins
  · simp [machineFields]
  · simp only [List.mem_singleton, forall_eq, hid]
    exact ⟨hword _ (by decide), hword Workflow.default.id (by decide), .text _⟩

/-- The diagram of a document is answered, or `null` if there is none. -/
theorem answers_diagram {r : Request} {markdown : Text} (h : r.Posts .diagram markdown)
    (origins : List Text) :
    (respond origins r).1.Answers (diagramJson (Fence.diagram? markdown)) := by
  have hvalue : (((Fence.diagram? markdown).map Json.text).getD .null).holds r.halves = false ∧
      (((Fence.diagram? markdown).map Json.text).getD .null).Plain := by
    cases hdiagram : Fence.diagram? markdown with
    | none => exact ⟨rfl, .null⟩
    | some d =>
      refine ⟨Block.occursIn_of_drawnFrom (Block.le_first_freeOf _) h.whole fun c hc => ?_, .text d⟩
      obtain ⟨pre, ⟨⟨lead, gap, post, hsplit, -, -⟩, -, -, -⟩, -⟩ :=
        Fence.diagram?_eq_some_iff_isDiagramOf.mp hdiagram
      exact .inl (by simp [hsplit, hc])
  have hname : r.halves.occursIn "diagram".toList = false :=
    Block.occursIn_of_ascii (Block.le_first_freeOf _) (by decide)
  have hfield : Json.someFieldHolds r.halves
      [("diagram".toList, ((Fence.diagram? markdown).map Json.text).getD .null)] = false := by
    rw [Json.someFieldHolds_eq_false_iff]
    simpa only [List.mem_singleton, forall_eq] using ⟨hname, hvalue.1⟩
  exact answers_of_posts h (by decide) rfl hfield
    (.object (by simp) (by simpa only [List.mem_singleton, forall_eq] using hvalue.2)) origins

/-- An answer with the fields of a machine shows the machine. -/
lemma Response.Answers.shows {response : Response} {others : List (Text × Json)}
    (h : response.Answers (.object (machineFields m ++ others))) : response.Shows m := by
  refine ⟨h.status, _, h.json, rfl, ?_⟩
  rw [← statesJson_eq]
  rfl

/-- A request for the machine of a diagram is answered. -/
theorem shows_machine {r : Request} {d : Text} (h : r.Posts .machine d) (origins : List Text) :
    (respond origins r).1.Shows (Machine.ofDiagram d) :=
  @Response.Answers.shows _ _ [] (answers_machine h origins)

/-- A request for the workflow of a document is answered. -/
theorem shows_workflow {r : Request} {markdown : Text} (h : r.Posts .workflow markdown)
    (origins : List Text) : (respond origins r).1.Shows (Document.workflow markdown).toMachine :=
  (answers_workflow h origins).shows

/-- A response shows one machine. -/
lemma Response.Shows.unique {response : Response} {m m' : Machine} (h : response.Shows m)
    (h' : response.Shows m') : m = m' := by
  obtain ⟨-, j, hread, hinitial, hstates⟩ := h
  obtain ⟨-, j', hread', hinitial', hstates'⟩ := h'
  obtain rfl : j = j' := Except.ok.inj (hread.symm.trans hread')
  have hi : m.initial = m'.initial :=
    Json.text.inj (Option.some.inj (hinitial.symm.trans hinitial'))
  have hjson := Option.some.inj (hstates.symm.trans hstates')
  have hs : m.states = m'.states := by
    have hdecode := Json.catalog?_ofCatalog State.ofJson?_toJson
    exact Option.some.inj ((hdecode m.states).symm.trans
      ((congrArg (Json.catalog? State.ofJson?) hjson).trans (hdecode m'.states)))
  cases m
  cases m'
  simp_all

end Service

namespace Document

open Service Fence

/-- The workflow of a document made around a diagram is the machine of the diagram, and the service
shows this machine for the document and for the diagram. -/
theorem workflow_enclose {pre d post : Text} (hpre : ∀ a s, pre = a ++ s → ¬ Opens s)
    (hfence : occurs fence d = false) (hd : ¬ AllIn isBlank d)
    (hlooks : looksLikeStateDiagram d = true) :
    (workflow (enclose pre d post)).id = "workflow".toList ∧
      (workflow (enclose pre d post)).toMachine = Machine.ofDiagram d ∧
      ∀ (origins : List Text) (r r' : Request),
        r.Posts .workflow (enclose pre d post) → r'.Posts .machine d →
          (respond origins r).1.Shows (Machine.ofDiagram d) ∧
            (respond origins r').1.Shows (Machine.ofDiagram d) := by
  have hworkflow : workflow (enclose pre d post) = { Machine.ofDiagram d with } := by
    rw [workflow, describes_enclose hpre hfence hd hlooks]
    rfl
  refine ⟨by rw [hworkflow], by rw [hworkflow], ?_⟩
  intro origins r r' hr hr'
  have hshows := shows_workflow hr origins
  rw [hworkflow] at hshows
  exact ⟨hshows, shows_machine hr' origins⟩

/-- A diagram with blanks at both ends and with marks that have to be escaped. -/
def orders : Text :=
  "\u2003\n[*] --> open\n\topen --> shut : \"now\"\n\n ".toList

/-- The diagram of the orders stands behind another block and in front of another one. -/
theorem workflow_enclose_orders :
    (workflow (enclose "```\n```\n".toList orders "`".toList)).toMachine =
        Machine.ofDiagram orders ∧
      (respond [] (.posting .workflow
        (enclose "```\n```\n".toList orders "`".toList))).1.Shows
          (Machine.ofDiagram orders) ∧
      (respond [] (.posting .machine orders)).1.Shows (Machine.ofDiagram orders) := by
  have hpre : ∀ a s, "```\n```\n".toList = a ++ s → ¬ Opens s := by
    rintro a s hsplit ⟨c, rest, rfl, -⟩
    exact occurs_eq_false_iff.mp (by decide : occurs tag _ = false) a (c :: rest) hsplit
  have hfield : ∀ (x : Except Rejection Text) s, x.toOption = some s → x = .ok s := by
    intro x s hx
    cases x with
    | error _ => exact absurd hx (by simp [Except.toOption])
    | ok _ => exact congrArg Except.ok (Option.some.inj hx)
  obtain ⟨-, hmachine, hservice⟩ :=
    @workflow_enclose _ orders "`".toList hpre (by decide) (by decide) (by decide)
  refine ⟨hmachine, hservice [] _ _ ?_ ?_⟩
  · exact ⟨by decide, by decide +kernel, hfield _ _ (by decide +kernel), by decide +kernel⟩
  · exact ⟨by decide, by decide +kernel, hfield _ _ (by decide +kernel), by decide +kernel⟩

end Document

end Statechart
