import Statechart.Proofs.Log.Line

/-!
# The attributes that a line shows

A reporter may give a record any attribute that the record does not have of itself and does not get
later.  A line leaves out the names that are reserved and those that begin with an underscore.  The
reserved names are the ones which no reporter may give, and one more, `Record.taskName`, which other
records have of themselves (`Record.mem_reserved_iff`).

So a line shows every attribute that has been accepted, in order, unless its name begins with an
underscore or is this one: `Submission.line_shows_accepted`.
-/

namespace Statechart

open Text

namespace Record

/-- The name that is reserved although a record has no attribute of this name. -/
def taskName : Text := "taskName".toList

variable {name : Text}

/-- The reserved names are those of the attributes that a record has or gets, and one more. -/
lemma mem_reserved_iff :
    name ∈ reserved ↔ name ∈ ownAttributes ∨ name ∈ laterAttributes ∨ name = taskName := by
  have hsub : reserved ⊆ ownAttributes ++ (laterAttributes ++ [taskName]) := by decide +kernel
  have hsup : ownAttributes ++ (laterAttributes ++ [taskName]) ⊆ reserved := by decide +kernel
  have hmem : name ∈ reserved ↔ name ∈ ownAttributes ++ (laterAttributes ++ [taskName]) :=
    ⟨fun h => hsub h, fun h => hsup h⟩
  rw [hmem, List.mem_append, List.mem_append, List.mem_singleton]

lemma accepts_eq_true_iff :
    accepts name = true ↔ name ∉ ownAttributes ∧ name ∉ laterAttributes := by
  simp [accepts, and_comm]

lemma shows_eq_true_iff : shows name = true ↔ name ∉ reserved ∧ name.head? ≠ some '_' := by
  simp [shows]

/-- An accepted attribute is shown unless its name is the one that is reserved for others or begins
with an underscore. -/
lemma shows_iff_of_accepts (h : accepts name = true) :
    shows name = true ↔ name.head? ≠ some '_' ∧ name ≠ taskName := by
  obtain ⟨hown, hlater⟩ := accepts_eq_true_iff.mp h
  rw [shows_eq_true_iff, mem_reserved_iff]
  tauto

lemma field?_fieldsOf_extra (moment levelName name message : Json) (extra failure : Option Json) :
    (Json.object (fieldsOf moment levelName name message extra failure)).field? "extra".toList =
      extra := by
  cases extra <;> cases failure <;> rfl

lemma extraJson?_eq (r : Record) :
    r.extraJson? =
      if r.extra.isEmpty then none
      else some (.object (r.extra.map fun e => (e.1, e.2.toJson))) := by
  rw [extraJson?, Value.toJson, Value.fieldsToJson_eq_map]

/-- The object of the further attributes in a line. -/
lemma field?_toJson_extra (r : Record) (moment message : Text) :
    (r.toJson moment message).field? "extra".toList =
      if r.extra.isEmpty then none
      else some (.object (r.extra.map fun e => (e.1, e.2.toJson))) := by
  rw [toJson_eq_object_fieldsOf, field?_fieldsOf_extra, extraJson?_eq]

/-- The object of the further attributes when a line is read. -/
lemma field?_reread_toJson_extra (r : Record) (moment message : Text) :
    (r.toJson moment message).reread.field? "extra".toList =
      if r.extra.isEmpty then none
      else some (.object (r.extra.map fun e => (e.1, e.2.toJson.reread))) := by
  rw [toJson_eq_object_fieldsOf, reread_fieldsOf, field?_fieldsOf_extra, reread_extraJson?]

end Record

namespace Submission

variable {s : Submission}

lemma refusedAttribute?_eq_none_iff :
    s.refusedAttribute? = none ↔ ∀ e ∈ s.attributes, Record.accepts e.1 = true := by
  simp [refusedAttribute?]

/-- The attributes that a line shows are those with an accepted name that does not begin with an
underscore, without the one that is reserved for other records. -/
lemma extra_report (given : Catalog Value) (hgiven : s.attributes = given.entries)
    (haccepted : s.refusedAttribute? = none) (level : Level) :
    (s.report level).record.extra =
      given.entries.filter fun e => e.1.head? ≠ some '_' ∧ e.1 ≠ Record.taskName := by
  have hattributes : (s.report level).record.attributes = given := by
    change Catalog.ofList s.attributes = given
    rw [hgiven, Catalog.ofList_entries]
  rw [refusedAttribute?_eq_none_iff, hgiven] at haccepted
  rw [Record.extra, hattributes]
  refine List.filter_congr fun e he => ?_
  rw [Bool.eq_iff_iff, Record.shows_iff_of_accepts (haccepted e he), decide_eq_true_iff]

/-- The line of what a reporter submits with attributes that are accepted shows under `extra`
exactly those whose name does not begin with an underscore and is not the one reserved for other
records, in the order in which they were given and with their values; it has no `extra` if there are
none. -/
theorem line_shows_accepted (given : Catalog Value) (hgiven : s.attributes = given.entries)
    (haccepted : s.refusedAttribute? = none) (level : Level) :
    let record := (s.report level).record
    let shown := given.entries.filter fun e => e.1.head? ≠ some '_' ∧ e.1 ≠ Record.taskName
    ((∃ line, record.line = .ok line) ↔ record.Writable) ∧
      ∀ line, record.line = .ok line →
        ∃ json : Json, line = json.write .spaced ∧ Json.read line = .ok json.reread ∧
          json.field? "extra".toList =
            (if shown.isEmpty then none
              else some (.object (shown.map fun e => (e.1, e.2.toJson)))) ∧
          json.reread.field? "extra".toList =
            (if shown.isEmpty then none
              else some (.object (shown.map fun e => (e.1, e.2.toJson.reread)))) := by
  intro record shown
  have hshown : record.extra = shown := extra_report given hgiven haccepted level
  refine ⟨Record.exists_line_iff, fun line hline => ?_⟩
  obtain ⟨moment, message, -, -, -, -, hlong, rfl⟩ := Record.line_eq_ok_iff.mp hline
  refine ⟨record.toJson moment message, rfl,
    Json.read_write_reread Json.Layout.isSpacing_spaced hlong, ?_, ?_⟩
  · rw [Record.field?_toJson_extra, hshown]
  · rw [Record.field?_reread_toJson_extra, hshown]

/-- Two attributes are shown in the order in which they were given, and a third one between them is
not, for its underscore. -/
theorem line_shows_accepted_two :
    let s : Submission :=
      { logger := ['x'], level := .int 20, message := ['m'],
        attributes := [("b".toList, .int 1), ("_c".toList, .none), ("a".toList, .text ['y'])] }
    ∃ line, (s.report 20).record.line = .ok line ∧ ∃ json, Json.read line = .ok json ∧
      json.field? "extra".toList =
        some (.object [("b".toList, .int 1), ("a".toList, .text ['y'])]) := by
  intro s
  obtain ⟨hline, hshows⟩ :=
    line_shows_accepted (s := s) ⟨s.attributes, by decide⟩ rfl (by decide) 20
  obtain ⟨line, hline⟩ := hline.mpr (by decide +kernel)
  obtain ⟨json, -, hread, -, hextra⟩ := hshows line hline
  exact ⟨line, hline, json.reread, hread, hextra⟩

/-- An attribute of the name that is reserved for other records is accepted and not shown, and one
that takes the place of what gives the message is accepted and keeps the record from having a
line. -/
theorem accepted_without_being_shown :
    let reserved : Submission :=
      { logger := ['x'], level := .int 20, message := ['m'],
        attributes := [("taskName".toList, .int 1)] }
    let giver : Submission :=
      { logger := ['x'], level := .int 20, message := ['m'],
        attributes := [("getMessage".toList, .int 1)] }
    reserved.refusedAttribute? = none ∧ giver.refusedAttribute? = none ∧
      (reserved.report 20).record.line.toOption =
        some ("\x7b\"timestamp\": \"1970-01-01T00:00:00+00:00\", \"level\": \"INFO\", ".toList ++
          "\"logger\": \"x\", \"message\": \"m\"\x7d".toList) ∧
      (giver.report 20).record.line.toOption = none := by
  decide +kernel

end Submission

end Statechart
