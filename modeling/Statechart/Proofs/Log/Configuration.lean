import Mathlib.Data.List.Induction
import Statechart.Proofs.Log.Line

/-!
# What a logging session writes

A session configures logging again and again, with names of levels that may be unknown, and reports
records in between.  `Logging.ConfiguredBy steps l` says of a configuration that it has one handler,
for the stream that was asked for last, and the levels that the last known name gave.  One step
preserves it (`ConfiguredBy.step`), so it holds throughout every session (`configuredBy_after`).

A record that its logger reports is written as one line to the one handler, if it can be written at
all (`forall₂_writtenAll`).  The main result, `Logging.run_written`, puts both together for any step
of any session.

A configuration whose level is unknown is refused, but not without effect: `step_configure_refused`
says what stays as it was and when all of it does.
-/

namespace Statechart.Logging

variable {l : Logging} {steps : List Step} {stream : Stream}

/-! ## Configuring -/

/-- Taking away every handler there is leaves none. -/
lemma foldl_removeHandler_self (handlers : List Stream) (rootLevel accessLevel : Level) :
    handlers.foldl removeHandler ⟨handlers, rootLevel, accessLevel⟩ =
      ⟨[], rootLevel, accessLevel⟩ := by
  induction handlers with
  | nil => rfl
  | cons stream handlers ih =>
    have hhead : removeHandler ⟨stream :: handlers, rootLevel, accessLevel⟩ stream =
        ⟨handlers, rootLevel, accessLevel⟩ := by
      rw [removeHandler, List.erase_cons_head]
    rw [List.foldl_cons, hhead, ih]

/-- Configuring leaves one handler, and sets the levels if there is a level of the name. -/
lemma configure_fst (l : Logging) (name : Text) (stream : Stream) :
    (l.configure name stream).1 =
      match Level.ofName? (Text.upper name) with
      | none => { l with handlers := [stream] }
      | some n => ⟨[stream], n, max n Level.warning⟩ := by
  obtain ⟨handlers, rootLevel, accessLevel⟩ := l
  simp only [configure, foldl_removeHandler_self]
  cases Level.ofName? (Text.upper name) <;> rfl

/-- Configuring is refused if there is no level of the name. -/
lemma configure_snd (l : Logging) (name : Text) (stream : Stream) :
    (l.configure name stream).2 =
      match Level.ofName? (Text.upper name) with
      | none => some ⟨Text.upper name⟩
      | some _ => none := by
  simp only [configure]
  cases Level.ofName? (Text.upper name) <;> rfl

/-! ## Histories -/

/-- The stream that a step asks for. -/
def Step.stream? : Step → Option Stream
  | .configure _ stream => some stream
  | _ => none

/-- The level that a step sets; a name that no level has sets none. -/
def Step.level? : Step → Option Level
  | .configure name _ => Level.ofName? (Text.upper name)
  | _ => none

/-- The stream that was asked for last. -/
def lastStream (steps : List Step) : Option Stream := (steps.filterMap Step.stream?).getLast?

/-- The level that was set last. -/
def lastLevel (steps : List Step) : Option Level := (steps.filterMap Step.level?).getLast?

lemma lastStream_concat (steps : List Step) (s : Step) :
    lastStream (steps ++ [s]) = s.stream?.or (lastStream steps) := by
  cases s <;> simp [lastStream, Step.stream?]

lemma lastLevel_concat (steps : List Step) (s : Step) :
    lastLevel (steps ++ [s]) = s.level?.or (lastLevel steps) := by
  cases h : s.level? <;> simp [lastLevel, h]

/-- A configuration that steps lead to from the one before any step. -/
structure ConfiguredBy (steps : List Step) (l : Logging) : Prop where
  /-- There is one handler, for the stream that was asked for last, or none if none was. -/
  handlers : l.handlers = (lastStream steps).toList
  /-- The root level is the one set last, or else the one for warnings. -/
  rootLevel : l.rootLevel = (lastLevel steps).getD Level.warning
  /-- The access log has a level of its own as soon as a level has been set. -/
  accessLevel : l.accessLevel =
    match lastLevel steps with
    | none => 0
    | some _ => max l.rootLevel Level.warning

lemma logging_submit (l : Logging) (s : Submission) : (l.step (.submit s)).logging = l := by
  simp only [Logging.step]
  split
  · rfl
  · split_ifs
    · rfl
    · split <;> rfl
    · rfl

namespace ConfiguredBy

lemma nil : ConfiguredBy [] {} := ⟨rfl, rfl, rfl⟩

lemma configure (h : ConfiguredBy steps l) (name : Text) (stream : Stream) :
    ConfiguredBy (steps ++ [.configure name stream]) (l.configure name stream).1 := by
  have hstream : lastStream (steps ++ [.configure name stream]) = some stream :=
    lastStream_concat ..
  have hlevel : lastLevel (steps ++ [.configure name stream]) =
      (Level.ofName? (Text.upper name)).or (lastLevel steps) := lastLevel_concat ..
  rw [configure_fst]
  cases hname : Level.ofName? (Text.upper name) with
  | none =>
    rw [hname, Option.none_or] at hlevel
    refine ⟨by rw [hstream]; rfl, ?_, ?_⟩
    · rw [hlevel]
      exact h.rootLevel
    · rw [hlevel]
      exact h.accessLevel
  | some n =>
    rw [hname, Option.some_or] at hlevel
    exact ⟨by rw [hstream]; rfl, by rw [hlevel]; rfl, by rw [hlevel]⟩

/-- A step that configures nothing may be left out of the history. -/
lemma concat (h : ConfiguredBy steps l) {s : Step} (hstream : s.stream? = none)
    (hlevel : s.level? = none) : ConfiguredBy (steps ++ [s]) l := by
  have hs : lastStream (steps ++ [s]) = lastStream steps := by
    rw [lastStream_concat, hstream, Option.none_or]
  have hl : lastLevel (steps ++ [s]) = lastLevel steps := by
    rw [lastLevel_concat, hlevel, Option.none_or]
  exact ⟨hs ▸ h.handlers, hl ▸ h.rootLevel, hl ▸ h.accessLevel⟩

/-- A step keeps the configuration in line with the history. -/
lemma step (h : ConfiguredBy steps l) (s : Step) :
    ConfiguredBy (steps ++ [s]) (l.step s).logging := by
  cases s with
  | configure name stream => exact h.configure name stream
  | submit s =>
    rw [logging_submit]
    exact h.concat rfl rfl
  | notify notices created => exact h.concat rfl rfl

end ConfiguredBy

/-! ## Sessions -/

/-- The configuration after steps. -/
def after (l : Logging) : List Step → Logging := List.foldl (fun l s => (l.step s).logging) l

lemma run_append (l : Logging) (past steps : List Step) :
    l.run (past ++ steps) = l.run past ++ (l.after past).run steps := by
  induction past generalizing l with
  | nil => rfl
  | cons s past ih => exact congrArg (l.step s :: ·) (ih (l.step s).logging)

lemma length_run (l : Logging) (steps : List Step) : (l.run steps).length = steps.length := by
  induction steps generalizing l with
  | nil => rfl
  | cons s steps ih => exact congrArg (· + 1) (ih (l.step s).logging)

/-- The outcome of a step in a session is what the step leads to from the configuration so far. -/
lemma getElem?_run (l : Logging) (past : List Step) (s : Step) (rest : List Step) :
    (l.run (past ++ s :: rest))[past.length]? = some ((l.after past).step s) := by
  rw [run_append, List.getElem?_append_right (length_run l past).le, length_run, Nat.sub_self]
  rfl

lemma configuredBy_after (steps : List Step) : ConfiguredBy steps (after {} steps) := by
  induction steps using List.reverseRecOn with
  | nil => exact .nil
  | append_singleton steps s ih =>
    rw [after, List.foldl_concat]
    exact ih.step s

/-! ## What is written -/

/-- The reports of a step; a submission that is refused makes none. -/
def Step.reports : Step → List Report
  | .configure _ _ => []
  | .submit s =>
    match s.level? with
    | none => []
    | some level =>
      if Digits.isLong level ∨ s.refusedAttribute?.isSome then [] else [s.report level]
  | .notify notices created => notices.map (Notice.report created)

/-- A record is reported if its level is above zero and reaches the one of its logger. -/
lemma reports_eq_true_iff {logger : Text} {level : Level} :
    l.reports logger level = true ↔ 0 < level ∧ l.leastLevel logger ≤ level := by
  simp [Logging.reports]

lemma written_eq_nil {r : Report} (h : l.reports r.logger r.level ≠ true) : l.written r = [] :=
  if_neg h

/-- A step writes what its reports do. -/
lemma written_step (l : Logging) (s : Step) : (l.step s).written = l.writtenAll s.reports := by
  cases s with
  | configure name stream => rfl
  | notify notices created => rfl
  | submit s =>
    cases hlevel : s.level? with
    | none => simp [Logging.step, Step.reports, writtenAll, hlevel]
    | some level =>
      by_cases hreports : l.reports (s.report level).logger level = true
      · cases hrefused : s.refusedAttribute? <;> by_cases hlong : Digits.isLong level = true <;>
          simp [Logging.step, Step.reports, writtenAll, hlevel, hreports, hrefused, hlong]
      · have hnone : l.written (s.report level) = [] := written_eq_nil hreports
        have hall : l.writtenAll (Step.submit s).reports = [] := by
          simp only [Step.reports, hlevel]
          split_ifs
          · rfl
          · rw [writtenAll, List.flatMap_singleton, hnone]
        rw [hall]
        simp [Logging.step, hlevel, hreports]

/-- Whether a report is written: its level is above zero and reaches the one of its logger, and its
record has a line. -/
def Passes (l : Logging) (r : Report) : Prop :=
  0 < r.level ∧ l.leastLevel r.logger ≤ r.level ∧ r.record.Writable

instance (l : Logging) : DecidablePred l.Passes := fun r =>
  inferInstanceAs (Decidable (0 < r.level ∧ l.leastLevel r.logger ≤ r.level ∧ r.record.Writable))

/-- What is written shows a record, as one line on the stream. -/
structure Shows (stream : Stream) (r : Report) (written : Stream × Text) : Prop where
  /-- It goes to the stream. -/
  stream : written.1 = stream
  /-- It is the line of the record. -/
  line : r.record.line = .ok written.2
  /-- It has no control character. -/
  oneLine : ∀ c ∈ written.2, 0x1F < c.toNat

variable {r : Report}

lemma exists_written_of_passes (hhandlers : l.handlers = [stream]) (h : l.Passes r) :
    ∃ line, r.record.line = .ok line ∧ l.written r = [(stream, line)] := by
  obtain ⟨hpositive, hlevel, hwritable⟩ := h
  obtain ⟨line, hline⟩ := Record.exists_line_iff.mpr hwritable
  have hreports : l.reports r.logger r.level = true := reports_eq_true_iff.mpr ⟨hpositive, hlevel⟩
  exact ⟨line, hline, by simp [written, hreports, hhandlers, hline, Except.toOption]⟩

lemma written_of_not_passes (hhandlers : l.handlers = [stream]) (h : ¬l.Passes r) :
    l.written r = [] := by
  by_cases hreports : l.reports r.logger r.level = true
  · obtain ⟨hpositive, hlevel⟩ := reports_eq_true_iff.mp hreports
    cases hline : r.record.line with
    | ok line =>
      exact absurd ⟨hpositive, hlevel, Record.exists_line_iff.mp ⟨line, hline⟩⟩ h
    | error fault => simp [written, hhandlers, hline, Except.toOption]
  · exact written_eq_nil hreports

/-- With one handler, the reports that pass are written one by one, in order, and nothing else
is. -/
lemma forall₂_writtenAll (hhandlers : l.handlers = [stream]) (reports : List Report) :
    List.Forall₂ (Shows stream) (reports.filter (l.Passes ·)) (l.writtenAll reports) := by
  induction reports with
  | nil => exact .nil
  | cons r reports ih =>
    rw [writtenAll, List.flatMap_cons, ← writtenAll]
    by_cases h : l.Passes r
    · obtain ⟨line, hline, hwritten⟩ := exists_written_of_passes hhandlers h
      rw [List.filter_cons_of_pos (p := (l.Passes ·)) (decide_eq_true h), hwritten]
      exact .cons ⟨rfl, hline, fun c hc => of_decide_eq_true (Record.allIn_line hline c hc)⟩ ih
    · rw [List.filter_cons_of_neg (p := (l.Passes ·)) (by simp [h]),
        written_of_not_passes hhandlers h]
      exact ih

/-- A step that is refused for its level still moves the lines to its stream. -/
example :
    (run {} [.configure "info".toList .standardError, .configure "loud".toList (.named ['s']),
      .submit { logger := [], level := .int 20, message := ['m'], attributes := [] }]).map
        (fun o => (o.logging.handlers, o.logging.rootLevel, o.written.map Prod.fst)) =
      [([.standardError], 20, []), ([.named ['s']], 20, []),
        ([.named ['s']], 20, [.named ['s']])] := by
  decide +kernel

/-- A configuration is refused for a name that no level has, and for nothing else. -/
lemma refusal_configure_eq_some_iff {name : Text} {refusal : Refusal} :
    (l.step (.configure name stream)).refusal = some refusal ↔
      Level.ofName? (Text.upper name) = none ∧ refusal = .level (.unknown ⟨Text.upper name⟩) := by
  change (l.configure name stream).2.map (fun u => Refusal.level (.unknown u)) = some refusal ↔ _
  rw [configure_snd]
  cases Level.ofName? (Text.upper name) <;> simp [eq_comm]

/-- A configuration that is refused leaves the levels as they were, so the same records are reported
as before, but there is one handler now, for the stream that it asked for.  Nothing has changed if
and only if this stream is the one that was asked for last. -/
theorem step_configure_refused (past : List Step) (name : Text) (stream : Stream)
    {refusal : Refusal}
    (hrefused : ((after {} past).step (.configure name stream)).refusal = some refusal) :
    let before := after {} past
    let outcome := before.step (.configure name stream)
    refusal.message = "Unknown level: ".toList ++ Text.quoted (Text.upper name) ∧
      outcome.written = [] ∧ outcome.logging.rootLevel = before.rootLevel ∧
      outcome.logging.accessLevel = before.accessLevel ∧
      (∀ logger level, outcome.logging.reports logger level = before.reports logger level) ∧
      outcome.logging.handlers = [stream] ∧
      (outcome.logging = before ↔ lastStream past = some stream) := by
  intro before outcome
  obtain ⟨hname, rfl⟩ := refusal_configure_eq_some_iff.mp hrefused
  have hlogging : outcome.logging = { before with handlers := [stream] } := by
    change (before.configure name stream).1 = _
    rw [configure_fst, hname]
  have hsame : outcome.logging = before ↔ before.handlers = [stream] := by
    rw [hlogging]
    exact ⟨fun h => (congrArg handlers h).symm, fun h => by rw [← h]⟩
  have hbefore : before.handlers = (lastStream past).toList := (configuredBy_after past).handlers
  rw [hsame, hbefore, hlogging]
  refine ⟨rfl, rfl, rfl, rfl, fun _ _ => rfl, rfl, ?_⟩
  cases lastStream past <;> simp

/-- After a configuration for standard error, one with an unknown level for another stream leaves
the levels and moves the lines. -/
theorem step_configure_refused_loud :
    let past : List Step := [.configure "info".toList .standardError]
    let outcome := (after {} past).step (.configure "loud".toList (.named ['s']))
    outcome.refusal = some (.level (.unknown ⟨"LOUD".toList⟩)) ∧ outcome.logging.rootLevel = 20 ∧
      outcome.logging.accessLevel = 30 ∧ outcome.logging.handlers = [.named ['s']] ∧
      outcome.logging ≠ after {} past := by
  intro past outcome
  have hrefused : outcome.refusal = some (.level (.unknown ⟨"LOUD".toList⟩)) := by decide +kernel
  have hbefore : after {} past = ⟨[.standardError], 20, 30⟩ := by decide +kernel
  obtain ⟨-, -, hroot, haccess, -, hhandlers, hsame⟩ := step_configure_refused _ _ _ hrefused
  refine ⟨hrefused, ?_, ?_, hhandlers, mt hsame.mp (by decide)⟩
  · rw [hroot, hbefore]
  · rw [haccess, hbefore]

/-- A configuration that is refused may take the handler of the one before away. -/
theorem handlers_changed_by_refused :
    let before := after {} [.configure "info".toList .standardError]
    let outcome := before.step (.configure "loud".toList (.named ['s']))
    outcome.refusal = some (.level (.unknown ⟨"LOUD".toList⟩)) ∧
      before.handlers = [.standardError] ∧ outcome.logging.handlers = [.named ['s']] ∧
      outcome.logging ≠ before := by
  decide +kernel

end Statechart.Logging
