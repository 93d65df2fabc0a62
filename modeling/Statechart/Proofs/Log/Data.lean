import Statechart.Log.Session
import Statechart.Proofs.Log.AsData
import Statechart.Proofs.Log.Line

/-!
# Workflows in log lines

The attributes of a record may be replaced beforehand by what a line shows in their place, the JSON
of a workflow and the text of what JSON does not know (`Value.asData`).  A record that has a line
has the same line then, and the converse holds if there is room for the attributes as they are
(`Record.Becomes.line_eq_ok_iff`).  Giving an attribute to two such records keeps them so
(`Record.Becomes.withAttribute`), and thus giving them any number does.

A line shows a workflow exactly as the workflow is printed: `Record.line_built_eq_ok_iff` gives the
line which reports that the workflow of a document has been built.  `Record.line_data` is both.
-/

namespace Statechart

open Catalog.Entries (Related)

/-! ## Records -/

namespace Record

variable {r s : Record} {moment message line name : Text} {v w : Value}
  {given given' : List (Text × Value)}

/-- The names of the attributes from which a record makes texts of its own: its message, and what
has failed. -/
def wordedAttributes : List Text := ["msg", "args", "exc_info"].map String.toList

/-- One record is another one of which some values have become data, apart from those of which it
makes texts of its own. -/
structure Becomes (r s : Record) : Prop where
  /-- The logger may have become data. -/
  name : r.name.Becomes s.name
  /-- The name of the level may have become data. -/
  levelName : r.levelName.Becomes s.levelName
  /-- The moment may have become data. -/
  created : r.created.Becomes s.created
  /-- The further attributes may have become data. -/
  attributes : Related (fun _ => Value.Becomes) r.attributes.entries s.attributes.entries
  /-- The message is the same. -/
  message : s.message = r.message
  /-- The arguments are the same. -/
  arguments : s.arguments = r.arguments
  /-- The failure is the same. -/
  failure : s.failure = r.failure
  /-- What stands in the place of a failure is the same. -/
  falseFailure : s.falseFailure = r.falseFailure
  /-- The stand-ins are the same. -/
  halves : s.halves = r.halves
  /-- The room is the same. -/
  room : s.room = r.room

lemma Becomes.refl (r : Record) : r.Becomes r :=
  have hattributes : Related (fun _ => Value.Becomes) r.attributes.entries r.attributes.entries :=
    List.forall₂_same.mpr fun _ _ => ⟨rfl, .inl rfl⟩
  ⟨.inl rfl, .inl rfl, .inl rfl, hattributes, rfl, rfl, rfl, rfl, rfl, rfl⟩

/-- One attribute is given to both records. -/
lemma Becomes.withAttribute (h : r.Becomes s) (hname : name ∉ wordedAttributes)
    (hvw : v.Becomes w) : (r.withAttribute name v).Becomes (s.withAttribute name w) := by
  have hmsg : name ≠ "msg".toList := by rintro rfl; exact hname (by decide)
  have hargs : name ≠ "args".toList := by rintro rfl; exact hname (by decide)
  have hexc : name ≠ "exc_info".toList := by rintro rfl; exact hname (by decide)
  simp only [Record.withAttribute, if_neg hmsg, if_neg hargs, if_neg hexc]
  split_ifs
  · exact { h with name := hvw }
  · exact { h with levelName := hvw }
  · exact { h with created := hvw }
  · exact { h with attributes := h.attributes.revise hvw }

/-- Attributes are given to both records one after the other. -/
lemma Becomes.withAttributes (h : r.Becomes s)
    (hgiven : Related (fun _ => Value.Becomes) given given')
    (hnames : ∀ e ∈ given, e.1 ∉ wordedAttributes) :
    (r.withAttributes given).Becomes (s.withAttributes given') := by
  induction hgiven generalizing r s with
  | nil => exact h
  | @cons e f _ _ hef _ ih =>
    rw [List.forall_mem_cons] at hnames
    have hstep : (r.withAttribute e.1 e.2).Becomes (s.withAttribute f.1 f.2) :=
      hef.1 ▸ h.withAttribute hnames.1 hef.2
    exact ih hstep hnames.2

/-- The attributes that a line shows become data with the others. -/
lemma Becomes.extra (h : r.Becomes s) : Related (fun _ => Value.Becomes) r.extra s.extra :=
  h.attributes.filter shows

/-- What the line shows is shown in the same way. -/
lemma Becomes.payload (h : r.Becomes s) :
    Value.ShownAs r.room (r.payload moment message) (s.payload moment message) := by
  have hextra : Related (fun _ => Value.ShownAs r.room) r.extra s.extra :=
    h.extra.imp fun _ _ he => ⟨he.1, he.2.shownAs⟩
  have hfixed (name : Text) (text : Text) :
      Related (fun _ => Value.ShownAs r.room) [(name, .text text)] [(name, .text text)] :=
    .cons ⟨rfl, .refl _⟩ .nil
  refine .table (List.rel_append (List.rel_append ?_ ?_) ?_)
  · exact .cons ⟨rfl, .refl _⟩ (.cons ⟨rfl, h.levelName.shownAs⟩
      (.cons ⟨rfl, h.name.shownAs⟩ (hfixed _ _)))
  · have hempty : s.extra.isEmpty = r.extra.isEmpty := by
      rw [Bool.eq_iff_iff, List.isEmpty_iff_length_eq_zero, List.isEmpty_iff_length_eq_zero,
        hextra.length_eq]
    rw [hempty]
    split_ifs
    · exact .nil
    · exact .cons ⟨rfl, .table hextra⟩ .nil
  · rw [h.failure]
    cases r.failure with
    | none => exact .nil
    | some failure => exact hfixed _ _

/-- The JSON of the line is the same. -/
lemma Becomes.toJson_eq (h : r.Becomes s) : s.toJson moment message = r.toJson moment message :=
  h.payload.toJson_eq

/-- As data a record takes no more calls. -/
lemma Becomes.calls_le (h : r.Becomes s) : s.calls ≤ r.calls := by
  rw [calls, calls, h.room]
  exact h.payload.calls_le

/-- The message is the same, as no attribute comes to stand in the place of what gives it. -/
lemma Becomes.givenMessage_eq_ok_iff (h : r.Becomes s) :
    s.givenMessage = .ok message ↔ r.givenMessage = .ok message := by
  have hgiver : s.attributes.get? messageGiver = none ↔ r.attributes.get? messageGiver = none := by
    have hrel : Option.Rel Value.Becomes (r.attributes.get? messageGiver)
        (s.attributes.get? messageGiver) := h.attributes.get?
    generalize r.attributes.get? messageGiver = x, s.attributes.get? messageGiver = y at hrel ⊢
    cases hrel <;> simp
  have htext : s.messageText = r.messageText := by
    unfold messageText
    rw [h.message, h.arguments, h.halves]
  rw [Record.givenMessage_eq_ok_iff, Record.givenMessage_eq_ok_iff, hgiver, htext]

/-- A record has the same line when its attributes become data.  As they are there has to be room
for them. -/
lemma Becomes.line_eq_ok_iff (h : r.Becomes s) :
    r.line = .ok line ↔ s.line = .ok line ∧ r.calls ≤ r.room.levels := by
  have hmoment (moment : Text) : Moment.ofValue s.created >>= Moment.text = .ok moment ↔
      Moment.ofValue r.created >>= Moment.text = .ok moment := by
    simp only [bind_eq_ok_iff, h.created.moment_eq_ok_iff]
  rw [Record.line_eq_ok_iff, Record.line_eq_ok_iff]
  simp only [h.toJson_eq, h.givenMessage_eq_ok_iff, hmoment, h.falseFailure, h.room]
  constructor
  · rintro ⟨moment, message, hmoment, hmessage, hfailure, hroom, hlong, hline⟩
    exact ⟨⟨moment, message, hmoment, hmessage, hfailure, h.calls_le.trans hroom, hlong, hline⟩,
      hroom⟩
  · rintro ⟨⟨moment, message, hmoment, hmessage, hfailure, -, hlong, hline⟩, hroom⟩
    exact ⟨moment, message, hmoment, hmessage, hfailure, hroom, hlong, hline⟩

/-- A record that shows one further attribute takes the calls for this within two tables. -/
lemma calls_of_extra_singleton {levelName logger : Text} (hlevel : r.levelName = .text levelName)
    (hlogger : r.name = .text logger) (hextra : r.extra = [(name, v)])
    (hfailure : r.failure = none) : r.calls = v.calls r.room + 2 := by
  rw [calls, payload, hlevel, hlogger, hextra, hfailure]
  simp [Value.calls, Value.fieldsCalls]

/-! ## The report of a workflow that has been built -/

/-- The line which says at a moment that a workflow has been built. -/
def builtLine (moment : Text) (w : Workflow) : Text :=
  "\x7b\"timestamp\": ".toList ++ Json.writeText moment ++
    ", \"level\": \"DEBUG\", \"logger\": \"mermaid_workflow.workflow.builder\", ".toList ++
    "\"message\": \"Built workflow\", \"extra\": \x7b\"workflow\": ".toList ++
    w.toJson.write .spaced ++ "\x7d\x7d".toList

/-- The JSON of the report that a workflow has been built. -/
lemma toJson_built (moment : Text) (w : Workflow) (created : Value) :
    ((Notice.built w).report created).record.toJson moment "Built workflow".toList =
      .object
        [("timestamp".toList, .text moment), ("level".toList, .text "DEBUG".toList),
          ("logger".toList, .text Notice.documentLog),
          ("message".toList, .text "Built workflow".toList),
          ("extra".toList, .object [("workflow".toList, w.toJson)])] := rfl

/-- The report is written as the line that is built around the JSON of the workflow. -/
lemma write_built (moment : Text) (w : Workflow) (created : Value) :
    (((Notice.built w).report created).record.toJson moment "Built workflow".toList).write .spaced =
      builtLine moment w := by
  have hdepth : Json.writeAt .spaced 2 w.toJson = w.toJson.write .spaced :=
    Json.writeAt_eq Json.Layout.onOneLine_spaced 2 0 w.toJson
  have hbreak (depth : Nat) : Json.Layout.spaced.newline depth = [] := rfl
  have hlead : "\x7b\"timestamp\": ".toList =
      '\x7b' :: (Json.writeText "timestamp".toList ++ Json.Layout.spaced.colon) := by
    decide +kernel
  have hfields :
      ", \"level\": \"DEBUG\", \"logger\": \"mermaid_workflow.workflow.builder\", ".toList =
        Json.Layout.spaced.comma ++ (Json.writeText "level".toList ++ (Json.Layout.spaced.colon ++
          (Json.writeText "DEBUG".toList ++ (Json.Layout.spaced.comma ++
            (Json.writeText "logger".toList ++ (Json.Layout.spaced.colon ++
              (Json.writeText Notice.documentLog ++ Json.Layout.spaced.comma))))))) := by
    decide +kernel
  have hextra : "\"message\": \"Built workflow\", \"extra\": \x7b\"workflow\": ".toList =
      Json.writeText "message".toList ++ (Json.Layout.spaced.colon ++
        (Json.writeText "Built workflow".toList ++ (Json.Layout.spaced.comma ++
          (Json.writeText "extra".toList ++ (Json.Layout.spaced.colon ++
            ('\x7b' :: (Json.writeText "workflow".toList ++ Json.Layout.spaced.colon))))))) := by
    decide +kernel
  have hend : "\x7d\x7d".toList = ['\x7d', '\x7d'] := rfl
  rw [toJson_built, Json.write]
  delta builtLine
  simp only [hlead, hfields, hextra, hend, hdepth, hbreak, Json.writeAt, Json.writeFields,
    List.append_assoc, List.cons_append, List.nil_append]

/-- The calls that the report of a workflow takes are those for the workflow within two tables. -/
lemma calls_built (w : Workflow) (created : Value) (room : Room) :
    ({ ((Notice.built w).report created).record with room } : Record).calls =
      (Value.workflow w).calls room + 2 :=
  calls_of_extra_singleton rfl rfl rfl rfl

/-- There is room for the report of a workflow where nothing else is being called. -/
lemma calls_built_le (w : Workflow) (created : Value) :
    ((Notice.built w).report created).record.calls ≤
      ((Notice.built w).report created).record.room.levels := by
  have hcalls : (Value.workflow w).calls {} ≤ 6 :=
    max_le (Value.searchCalls_workflow_le w)
      ((Nat.succ_le_succ w.depth_toJson_le).trans (by decide))
  have hroom : ((Notice.built w).report created).record.calls = (Value.workflow w).calls {} + 2 :=
    calls_built w created {}
  have hlevels : ((Notice.built w).report created).record.room.levels = 987 := rfl
  omega

/-- The report that a workflow has been built shows the JSON of the workflow, if there is room for
it. -/
lemma line_built_eq_ok_iff {w : Workflow} {created : Value} {room : Room} :
    ({ ((Notice.built w).report created).record with room } : Record).line = .ok line ↔
      (Value.workflow w).calls room + 2 ≤ room.levels ∧
        ∃ moment, Moment.ofValue created >>= Moment.text = .ok moment ∧
          line = builtLine moment w := by
  have hmessage (message : Text) :
      ({ ((Notice.built w).report created).record with room } : Record).givenMessage =
          .ok message ↔ message = "Built workflow".toList := by
    rw [givenMessage_eq_ok_iff]
    exact ⟨fun h => Except.ok.inj h.2.symm, fun h => ⟨rfl, h ▸ rfl⟩⟩
  have hlong (moment : Text) : (((Notice.built w).report created).record.toJson moment
      "Built workflow".toList).hasLongInteger = false := by
    rw [hasLongInteger_toJson_eq_false_iff]
    refine ⟨rfl, rfl, List.forall_mem_singleton.mpr ?_⟩
    exact w.plain_toJson.hasLongInteger_eq_false
  simp only [line_eq_ok_iff, hmessage, calls_built]
  constructor
  · rintro ⟨moment, message, hmoment, rfl, -, hroom, -, hline⟩
    exact ⟨hroom, moment, hmoment, hline.symm.trans (write_built moment w created)⟩
  · rintro ⟨hroom, moment, hmoment, rfl⟩
    exact ⟨moment, _, hmoment, rfl, rfl, hroom, hlong moment, write_built moment w created⟩

/-- It is reported that a workflow has been built if a document describes a machine, and the
workflow is the one of the document. -/
lemma built_mem_notices_iff {markdown : Text} {w : Workflow} :
    .built w ∈ Document.notices markdown ↔
      w = Document.workflow markdown ∧ ∃ m, Document.describes markdown = .machine m := by
  unfold Document.notices Document.workflow
  cases Document.describes markdown <;> simp [Document.Content.notices]

/-! ## Submissions -/

/-- The record of a submission becomes data with its attributes. -/
lemma becomes_report (s : Submission) (level : Level) :
    (s.report level).record.Becomes
      ({ s with attributes := Value.fieldsAsData s.attributes }.report level).record := by
  have hattributes : Related (fun _ => Value.Becomes) (Catalog.ofList s.attributes).entries
      (Catalog.ofList (Value.fieldsAsData s.attributes)).entries := by
    rw [Catalog.ofList, Catalog.ofList, Catalog.entries_foldl_insert,
      Catalog.entries_foldl_insert]
    exact (Value.related_fieldsAsData s.attributes).foldl_revise .nil
  exact { Becomes.refl (s.report level).record with attributes := hattributes }

/-! ## All values in log lines -/

/-- A record to which attributes are given. -/
def ofAttributes (attributes : List (Text × Value)) : Record :=
  ({ name := .text ['x'], levelName := .text "INFO".toList, message := .text "%r".toList } :
    Record).withAttributes attributes

/-- A record to which one attribute is given has a line if there is room for it and no integer in
it is too long. -/
lemma exists_line_ofAttributes_iff {v : Value} :
    (∃ line, (ofAttributes [(['d'], v)]).line = .ok line) ↔
      v.calls {} + 2 ≤ 987 ∧ v.hasLongInteger = false := by
  have hcalls : (ofAttributes [(['d'], v)]).calls = v.calls {} + 2 :=
    calls_of_extra_singleton rfl rfl rfl rfl
  rw [exists_line_iff]
  constructor
  · intro h
    exact ⟨hcalls ▸ h.room, h.extra (['d'], v) (List.mem_singleton_self _)⟩
  · rintro ⟨hroom, hlong⟩
    exact ⟨⟨_, rfl⟩, rfl, ⟨_, rfl⟩, rfl, rfl, rfl, List.forall_mem_singleton.mpr hlong,
      hcalls.trans_le hroom⟩

/-- As data a value holds nothing that JSON does not know.  A record that is given attributes has a
line if and only if it has the same line with these attributes as data and there is room for them as
they are; this leaves aside attributes of which the record makes texts of its own, and holds of
what a reporter submits as well.  The line which reports that the workflow of a document has been
built shows the JSON of this workflow, and there is room for it where nothing else is being
called. -/
theorem line_data :
    (∀ v : Value, v.asData.IsData ∧ v.asData.toJson = v.toJson) ∧
    (∀ (r : Record) (given : List (Text × Value)) (line : Text),
      (∀ e ∈ given, e.1 ∉ wordedAttributes) →
        ((r.withAttributes given).line = .ok line ↔
          (r.withAttributes (Value.fieldsAsData given)).line = .ok line ∧
            (r.withAttributes given).calls ≤ (r.withAttributes given).room.levels)) ∧
    (∀ (s : Submission) (level : Level) (line : Text),
      let data := { s with attributes := Value.fieldsAsData s.attributes }
      (s.report level).record.line = .ok line ↔
        (data.report level).record.line = .ok line ∧
          (s.report level).record.calls ≤ s.room.levels) ∧
    ∀ (markdown : Text) (w : Workflow),
      (.built w ∈ Document.notices markdown ↔
        w = Document.workflow markdown ∧ ∃ m, Document.describes markdown = .machine m) ∧
      ∀ (created : Value) (line : Text),
        (∀ room : Room,
          ({ ((Notice.built w).report created).record with room } : Record).line = .ok line ↔
            (Value.workflow w).calls room + 2 ≤ room.levels ∧
              ∃ moment, Moment.ofValue created >>= Moment.text = .ok moment ∧
                line = builtLine moment w) ∧
        (((Notice.built w).report created).record.line = .ok line ↔
          ∃ moment, Moment.ofValue created >>= Moment.text = .ok moment ∧
            line = builtLine moment w) := by
  refine ⟨fun v => ⟨Value.isData_asData v, Value.toJson_asData v⟩, fun r given line hnames => ?_,
    fun s level line => ?_, fun markdown w => ⟨?_, fun created line => ⟨fun room => ?_, ?_⟩⟩⟩
  · exact ((Becomes.refl r).withAttributes (Value.related_fieldsAsData given)
      hnames).line_eq_ok_iff
  · exact (becomes_report s level).line_eq_ok_iff
  · exact built_mem_notices_iff
  · exact line_built_eq_ok_iff
  · have hroom : (Value.workflow w).calls {} + 2 ≤ ({} : Room).levels :=
      (calls_built w created {}).symm.trans_le (calls_built_le w created)
    exact (@line_built_eq_ok_iff line w created {}).trans (and_iff_right hroom)

/-- The default workflow and a path, together in a list, have the line that their data have. -/
theorem line_data_default_workflow :
    let attributes : List (Text × Value) :=
      [(['d'], .list [.workflow Workflow.default, .path ⟨[], [['a']]⟩])]
    ∃ line, (ofAttributes attributes).line = .ok line ∧
      (ofAttributes (Value.fieldsAsData attributes)).line = .ok line := by
  intro attributes
  obtain ⟨line, hline⟩ : ∃ line, (ofAttributes attributes).line = .ok line :=
    exists_line_iff.mpr (by decide +kernel)
  have hdata := line_data.2.1 (ofAttributes []) attributes line (by decide)
  exact ⟨line, hline, (hdata.mp hline).1⟩

/-- A workflow in many lists has no line although its data have one, for it takes some calls to find
them out.  A path among the arguments of a message, or in a table that is the message, is shown as
its literal.  Bytes in the place of a failure report none if they are empty, which their data are
not. -/
theorem line_differs_from_data :
    let finished : Workflow :=
      { initial := ['A'], states := .ofList [(['A'], { isFinal := true })] }
    let deep : List (Text × Value) := [(['d'], .nested 980 (.workflow finished))]
    let argument : List (Text × Value) := [("args".toList, .path ⟨[], [['a'], ['b']]⟩)]
    let message : List (Text × Value) := [("msg".toList, .table [(['k'], .path ⟨[], []⟩)])]
    let failure : List (Text × Value) := [("exc_info".toList, .bytes [])]
    let shown (attributes : List (Text × Value)) : Option Text :=
      (ofAttributes attributes).line.toOption.map (List.drop 75)
    ((∀ line, (ofAttributes deep).line ≠ .ok line) ∧
      ∃ line, (ofAttributes (Value.fieldsAsData deep)).line = .ok line) ∧
    (shown argument = some "\"message\": \"PurePosixPath('a/b')\"\x7d".toList ∧
      shown (Value.fieldsAsData argument) = some "\"message\": \"'a/b'\"\x7d".toList) ∧
    (shown message = some "\"message\": \"\x7b'k': PurePosixPath('.')\x7d\"\x7d".toList ∧
      shown (Value.fieldsAsData message) = some "\"message\": \"\x7b'k': '.'\x7d\"\x7d".toList) ∧
    (shown failure = some "\"message\": \"%r\"\x7d".toList ∧
      shown (Value.fieldsAsData failure) = none) := by
  intro finished deep argument message failure shown
  refine ⟨⟨fun line hline => ?_, ?_⟩, ?_, ?_, ?_⟩
  · have hcalls : (Value.workflow finished).calls {} = 6 := by decide
    have hroom := (exists_line_ofAttributes_iff.mp ⟨line, hline⟩).1
    rw [Value.calls_nested, hcalls] at hroom
    omega
  · have hdata : Value.fieldsAsData deep =
        [(['d'], .nested 980 (Value.asData (.workflow finished)))] := by
      rw [Value.fieldsAsData, Value.asData_nested, Value.fieldsAsData]
    have hcalls : (Value.asData (.workflow finished)).calls {} = 3 := by decide
    rw [hdata, exists_line_ofAttributes_iff, Value.calls_nested, Value.hasLongInteger_nested,
      hcalls]
    decide
  · decide +kernel
  · decide +kernel
  · decide +kernel

/-- A state in a list in a table is shown as its JSON, and a path beside it as its text. -/
example :
    let v : Value :=
      .table [("a".toList, .list [.state { isFinal := true }, .path ⟨[], ["b".toList]⟩])]
    v.toJson.write .spaced = "\x7b\"a\": [\x7b\"type\": \"final\"\x7d, \"b\"]\x7d".toList := by
  decide +kernel

end Record

end Statechart
