import Mathlib.Data.List.Basic
import Statechart.Log.Session
import Statechart.Proofs.Json.OneLine
import Statechart.Proofs.Json.RoundTrip
import Statechart.Proofs.Log.Room

/-!
# Log lines cannot be split or forged

The line of a record has no control character, so it stays one line, and it is read as one object
whose fields are the fixed ones of the record, the further attributes together under `extra` and the
failure under `exception`.  Nothing that a reporter puts into a message, an attribute or a failure
can add a field beside these or take the place of one.

`Record.Writable` says when a record has a line at all.  The main result is
`Submission.line_shows_submission`.
-/

namespace Statechart

open Text

/-! ## Steps that may fail -/

section

variable {ε ε' α β : Type}

/-- Two steps give a result if the first gives one and the second gives it for that. -/
lemma bind_eq_ok_iff {x : Except ε α} {f : α → Except ε β} {b : β} :
    x >>= f = .ok b ↔ ∃ a, x = .ok a ∧ f a = .ok b := by
  cases x with
  | error e => simp [bind, Except.bind]
  | ok a => simp [bind, Except.bind]

lemma mapError_eq_ok_iff {x : Except ε α} {f : ε → ε'} {a : α} :
    x.mapError f = .ok a ↔ x = .ok a := by
  cases x <;> simp [Except.mapError]

end

/-! ## Tables -/

namespace Value

/-- The JSON of named values is made value by value. -/
lemma fieldsToJson_eq_map (fields : List (Text × Value)) :
    fieldsToJson fields = fields.map fun e => (e.1, e.2.toJson) := by
  induction fields with
  | nil => rfl
  | cons e fields ih => rw [fieldsToJson, ih, List.map_cons]

variable {fields : List (Text × Value)}

/-- A table has no integer that is too long if no value in it has one. -/
lemma hasLongInteger_table_eq_false_iff :
    (Value.toJson (.table fields)).hasLongInteger = false ↔
      ∀ e ∈ fields, e.2.hasLongInteger = false := by
  rw [toJson, Json.hasLongInteger, Json.fieldsHaveLongInteger_eq_false_iff, fieldsToJson_eq_map,
    List.forall_mem_map]
  rfl

/-- A table is read back field by field, as no name stands in it twice. -/
lemma reread_table (h : (fields.map Prod.fst).Nodup) :
    (Value.toJson (.table fields)).reread =
      .object (fields.map fun e => (e.1, e.2.toJson.reread)) := by
  rw [toJson, Json.reread, Json.rereadFields_eq_map, fieldsToJson_eq_map, List.map_map,
    Json.mergeFields_of_nodup]
  · rfl
  · rwa [List.map_map]

end Value

namespace Record

variable {r : Record} {moment message line : Text}

/-! ## The fields of a line -/

/-- The fields of a line, of which the further attributes and the failure may be missing. -/
def fieldsOf (moment levelName name message : Json) (extra failure : Option Json) :
    List (Text × Json) :=
  [("timestamp".toList, moment), ("level".toList, levelName), ("logger".toList, name),
    ("message".toList, message)] ++
      extra.toList.map ("extra".toList, ·) ++ failure.toList.map ("exception".toList, ·)

/-- No name stands twice among the fields of a line, whatever they hold. -/
lemma nodup_names_fieldsOf (moment levelName name message : Json) (extra failure : Option Json) :
    ((fieldsOf moment levelName name message extra failure).map Prod.fst).Nodup := by
  cases extra <;> cases failure <;> simp [fieldsOf]

/-- The object of the further attributes, unless there is none to show. -/
def extraJson? (r : Record) : Option Json :=
  if r.extra.isEmpty then none else some (Value.toJson (.table r.extra))

/-- The JSON of a record is the object of its fields. -/
lemma toJson_eq_object_fieldsOf :
    r.toJson moment message =
      .object (fieldsOf (.text moment) r.levelName.toJson r.name.toJson (.text message)
        r.extraJson? (r.failure.map fun f => .text f.text)) := by
  unfold toJson payload fieldsOf extraJson?
  rw [Value.toJson, Value.fieldsToJson_eq_map, List.map_append, List.map_append]
  congr 2
  · congr 1
    split_ifs <;> rfl
  · cases r.failure <;> rfl

/-- No further attribute is shown twice. -/
lemma nodup_names_extra (r : Record) : (r.extra.map Prod.fst).Nodup :=
  r.attributes.nodup_names.sublist (List.filter_sublist.map Prod.fst)

/-- The further attributes are read back one by one. -/
lemma reread_extraJson? :
    r.extraJson?.map Json.reread =
      if r.extra.isEmpty then none
      else some (.object (r.extra.map fun e => (e.1, e.2.toJson.reread))) := by
  unfold extraJson?
  split_ifs
  · rfl
  · exact congrArg some (Value.reread_table r.nodup_names_extra)

/-- The fields of a line are read back one by one. -/
lemma reread_fieldsOf (moment levelName name message : Json) (extra failure : Option Json) :
    (Json.object (fieldsOf moment levelName name message extra failure)).reread =
      .object (fieldsOf moment.reread levelName.reread name.reread message.reread
        (extra.map Json.reread) (failure.map Json.reread)) := by
  have hfields : Json.rereadFields (fieldsOf moment levelName name message extra failure) =
      fieldsOf moment.reread levelName.reread name.reread message.reread
        (extra.map Json.reread) (failure.map Json.reread) := by
    rw [Json.rereadFields_eq_map]
    cases extra <;> cases failure <;> rfl
  rw [Json.reread, hfields, Json.mergeFields_of_nodup (nodup_names_fieldsOf ..)]

/-! ## When a record has a line -/

/-- The greatest number of calls that are open at a time while a record is written.  It depends on
no moment and no message, as these are texts, which take none. -/
def calls (r : Record) : Nat := (r.payload [] []).calls r.room

/-- What a record needs to be written. -/
structure Writable (r : Record) : Prop where
  /-- Its moment can be written. -/
  moment : ∃ moment, Moment.ofValue r.created >>= Moment.text = .ok moment
  /-- No attribute stands in the place of what gives the message. -/
  giver : r.attributes.get? messageGiver = none
  /-- Its message can be filled in. -/
  message : ∃ message, r.messageText = .ok message
  /-- Nothing stands in the place of its failure. -/
  failure : r.falseFailure = none
  /-- The name of its level has no integer that is too long. -/
  levelName : r.levelName.hasLongInteger = false
  /-- The name of its logger has no integer that is too long. -/
  name : r.name.hasLongInteger = false
  /-- The attributes that the line shows have no integer that is too long. -/
  extra : ∀ e ∈ r.extra, e.2.hasLongInteger = false
  /-- There is room for what it nests. -/
  room : r.calls ≤ r.room.levels

lemma hasLongInteger_fieldsOf_eq_false_iff {moment levelName name message : Json}
    {extra failure : Option Json} :
    (Json.object (fieldsOf moment levelName name message extra failure)).hasLongInteger = false ↔
      moment.hasLongInteger = false ∧ levelName.hasLongInteger = false ∧
        name.hasLongInteger = false ∧ message.hasLongInteger = false ∧
          (∀ j ∈ extra, j.hasLongInteger = false) ∧ ∀ j ∈ failure, j.hasLongInteger = false := by
  rw [Json.hasLongInteger, Json.fieldsHaveLongInteger_eq_false_iff]
  cases extra <;> cases failure <;> simp [fieldsOf]

lemma hasLongInteger_extraJson?_eq_false_iff :
    (∀ j ∈ r.extraJson?, j.hasLongInteger = false) ↔
      ∀ e ∈ r.extra, e.2.hasLongInteger = false := by
  unfold extraJson?
  split_ifs with hempty
  · simp [List.isEmpty_iff.mp hempty]
  · simp only [Option.mem_some_iff, forall_eq', Value.hasLongInteger_table_eq_false_iff]

/-- The moment, the message and the failure are texts, so only the other fields can have an integer
that is too long. -/
lemma hasLongInteger_toJson_eq_false_iff :
    (r.toJson moment message).hasLongInteger = false ↔
      r.levelName.hasLongInteger = false ∧ r.name.hasLongInteger = false ∧
        ∀ e ∈ r.extra, e.2.hasLongInteger = false := by
  have htext (s : Text) : (Json.text s).hasLongInteger = false := rfl
  have hfailure : ∀ j ∈ r.failure.map fun f => Json.text f.text, j.hasLongInteger = false := by
    cases r.failure <;> simp [htext]
  rw [toJson_eq_object_fieldsOf, hasLongInteger_fieldsOf_eq_false_iff,
    hasLongInteger_extraJson?_eq_false_iff, and_iff_left hfailure]
  simp only [htext, true_and]
  rfl

/-- A record gives its message unless an attribute stands in the place of what gives it. -/
lemma givenMessage_eq_ok_iff :
    r.givenMessage = .ok message ↔
      r.attributes.get? messageGiver = none ∧ r.messageText = .ok message := by
  unfold givenMessage
  cases r.attributes.get? messageGiver with
  | some v => simp
  | none => simp [mapError_eq_ok_iff]

/-- What a line is made of. -/
lemma line_eq_ok_iff :
    r.line = .ok line ↔ ∃ moment message,
      Moment.ofValue r.created >>= Moment.text = .ok moment ∧ r.givenMessage = .ok message ∧
        r.falseFailure = none ∧ r.calls ≤ r.room.levels ∧
          (r.toJson moment message).hasLongInteger = false ∧
            (r.toJson moment message).write .spaced = line := by
  unfold Record.line
  -- the moment is a computation of two steps, which stays in one piece here
  generalize Moment.ofValue r.created >>= Moment.text = shown
  simp only [bind_eq_ok_iff, mapError_eq_ok_iff, exists_and_left]
  refine exists_congr fun moment => and_congr_right fun _ => exists_congr fun message =>
    and_congr_right fun _ => ?_
  cases r.falseFailure with
  | some v => exact iff_of_false nofun (fun h => nomatch h.1)
  | none =>
    have hfault : (r.payload moment message).fault? r.room r.room.levels = none ↔
        r.calls ≤ r.room.levels ∧ (r.toJson moment message).hasLongInteger = false :=
      Value.fault?_eq_none_iff (r.payload moment message) r.room.levels
    rw [← and_assoc (a := r.calls ≤ r.room.levels), ← hfault]
    cases (r.payload moment message).fault? r.room r.room.levels with
    | some fault => exact iff_of_false nofun (fun h => nomatch h.2.1)
    | none => exact ⟨fun h => ⟨rfl, rfl, Except.ok.inj h⟩, fun h => congrArg Except.ok h.2.2⟩

/-- A record has a line if and only if it can be written. -/
lemma exists_line_iff : (∃ line, r.line = .ok line) ↔ r.Writable := by
  simp only [line_eq_ok_iff, givenMessage_eq_ok_iff, hasLongInteger_toJson_eq_false_iff]
  constructor
  · rintro ⟨line, moment, message, hmoment, ⟨hgiver, hmessage⟩, hfailure, hroom,
      ⟨hlevel, hname, hextra⟩, -⟩
    exact ⟨⟨moment, hmoment⟩, hgiver, ⟨message, hmessage⟩, hfailure, hlevel, hname, hextra, hroom⟩
  · rintro ⟨⟨moment, hmoment⟩, hgiver, ⟨message, hmessage⟩, hfailure, hlevel, hname, hextra, hroom⟩
    exact ⟨_, moment, message, hmoment, ⟨hgiver, hmessage⟩, hfailure, hroom,
      ⟨hlevel, hname, hextra⟩, rfl⟩

instance : DecidablePred Writable := fun r =>
  decidable_of_iff (r.line.toOption.isSome = true) <| by
    rw [← exists_line_iff]
    cases r.line <;> simp [Except.toOption]

/-! ## Reading a line back -/

/-- A line has no control character. -/
theorem allIn_line (h : r.line = .ok line) : AllIn isAboveControls line := by
  obtain ⟨moment, message, -, -, -, -, -, rfl⟩ := line_eq_ok_iff.mp h
  exact Json.allIn_write Json.Layout.onOneLine_spaced _

/-- A line is read as the object of the record, as far as its numbers allow. -/
theorem read_line (h : r.line = .ok line) :
    ∃ moment message, Moment.ofValue r.created >>= Moment.text = .ok moment ∧
      r.givenMessage = .ok message ∧
        Json.read line =
          .ok (.object (fieldsOf (.text moment) r.levelName.toJson.reread r.name.toJson.reread
            (.text message)
            (if r.extra.isEmpty then none
              else some (.object (r.extra.map fun e => (e.1, e.2.toJson.reread))))
            (r.failure.map fun f => .text f.text))) := by
  obtain ⟨moment, message, hmoment, hmessage, -, -, hlong, rfl⟩ := line_eq_ok_iff.mp h
  refine ⟨moment, message, hmoment, hmessage, ?_⟩
  rw [Json.read_write_reread Json.Layout.isSpacing_spaced hlong, toJson_eq_object_fieldsOf,
    reread_fieldsOf, reread_extraJson?, Option.map_map]
  rfl

end Record

/-! ## Lines of submissions -/

namespace Submission

variable {s : Submission}

/-- Without arguments the message of a submission is shown as it is. -/
lemma messageText_report (level : Level) (h : s.arguments = []) :
    (s.report level).record.messageText = .ok s.message := by
  have harguments : (s.report level).record.arguments = none := by
    change Record.argumentsOfList s.arguments = none
    rw [h]
    rfl
  rw [Record.messageText, harguments]
  rfl

/-- What a reporter submits has a line if and only if its record can be written.  The line has no
control character, and is read as one object that shows the moment, the name of the level, the
logger and the message of the submission, with the attributes only under `extra` and the failure
only under `exception`. -/
theorem line_shows_submission (s : Submission) (level : Level) :
    let record := (s.report level).record
    ((∃ line, record.line = .ok line) ↔ record.Writable) ∧
      ∀ line, record.line = .ok line →
        (∀ c ∈ line, 0x1F < c.toNat) ∧
          ∃ moment message, Moment.ofValue s.created >>= Moment.text = .ok moment ∧
            record.messageText = .ok message ∧ (s.arguments = [] → message = s.message) ∧
              Json.read line =
                .ok (.object (Record.fieldsOf (.text moment) (.text (Level.nameOf s.level))
                  (.text s.loggerName) (.text message)
                  (if record.extra.isEmpty then none
                    else some (.object (record.extra.map fun e => (e.1, e.2.toJson.reread))))
                  (s.failure.map fun f => .text f.text))) := by
  refine ⟨Record.exists_line_iff, fun line hline => ⟨fun c hc => ?_, ?_⟩⟩
  · exact of_decide_eq_true (Record.allIn_line hline c hc)
  · obtain ⟨moment, message, hmoment, hmessage, hread⟩ := Record.read_line hline
    obtain ⟨-, hmessage⟩ := Record.givenMessage_eq_ok_iff.mp hmessage
    refine ⟨moment, message, hmoment, hmessage, fun harguments => ?_, hread⟩
    exact Except.ok.inj (hmessage.symm.trans (messageText_report level harguments))

/-- A line feed in the message is escaped, and an attribute called `level` stays under `extra`. -/
example :
    (Submission.report
      { logger := [], level := .int 20, message := ['a', '\n'],
        attributes := [("level".toList, .text ['x'])] } 20).record.line.toOption.map
          (List.drop 78) =
      some "\"message\": \"a\\n\", \"extra\": \x7b\"level\": \"x\"\x7d\x7d".toList := by
  decide +kernel

end Submission

end Statechart
