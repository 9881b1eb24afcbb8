import CipUnits.Proofs.Run
import CipUnits.Source.Script
import Mathlib.Data.List.Forall2

/-!
# `CipUnits.Proofs.Events` — what the log tells of a session

A value that a reader hands out does not say whether it was read. The log does: whatever becomes of a
fault, whether it is put on record, only counted or answered as an error, it is reported once, and so is
every value. The events of an operation are laid out once (`events_perform`): a refusal, then one report
for each unit, then the close of the run. What a session logs is the events of its operations in a row.

## Contents
- **Events.** `Event.Reports` and `Event.Closes`, what an event says of a unit and of a run; `isReport`.
- **Operations.** `events_perform`, the layout, and `filter_perform`, what is left of it; `total_foldl_note`
  and `faults_attempted`, what becomes of the faults; `Logged` and `logged_perform`, everything about one
  operation.
- **Sessions.** `narrative`, the events of a session; `reports_narrative`, `errors_narrative` and
  `length_closes_narrative`, one induction each.
- `log_law` — every operation from any state, and every session.
-/

namespace CipUnits

/-! ## Events -/

/-- An event tells what came of a unit: of a fault it is a warning with the message of the fault, of a
    value a trace that shows it. -/
def Event.Reports : Decoded → Event → Prop
  | .clean value, event =>
      event.level = .trace ∧ event.message = "decoded unit"
        ∧ event.fields = [("tag", .text value.tag.label), ("value", .text value.display)]
  | .faulty met, event =>
      event.level = .warn ∧ event.message = met.message
        ∧ event.fields = [("tag", .text met.tag.label), ("error", .text met.failure.message)]

/-- An event tells that a run for some units has ended with some faults on record. -/
def Event.Closes (tag : Tag) (count faults : Nat) (event : Event) : Prop :=
  event.level = .debug ∧ event.message = "decoded unit run"
    ∧ event.fields = [("tag", .text tag.label), ("count", .text (Nat.repr count)),
        ("faults", .text (Nat.repr faults))]

/-- Whether an event has the level at which units are reported. -/
def Event.isReport (event : Event) : Bool := event.level == .warn || event.level == .trace

theorem Event.reports_ofDecoded (unit : Decoded) : Event.Reports unit (.ofDecoded unit) := by
  cases unit with
  | clean value => exact ⟨rfl, rfl, rfl⟩
  | faulty met => exact ⟨rfl, rfl, rfl⟩

theorem Event.forall₂_reports (units : List Decoded) :
    List.Forall₂ Event.Reports units (units.map Event.ofDecoded) := by
  rw [List.forall₂_map_right_iff, List.forall₂_same]
  intro unit _
  exact Event.reports_ofDecoded unit

theorem Event.level_ofDecoded (unit : Decoded) :
    (Event.ofDecoded unit).level = if unit.isClean then .trace else .warn := by
  cases unit <;> rfl

@[simp] theorem Event.isReport_ofDecoded (unit : Decoded) : (Event.ofDecoded unit).isReport = true := by
  cases unit <;> rfl

/-- Nothing is left out of a log that goes down to traces. -/
theorem Verbosity.filter_trace (events : List Event) : (upTo .trace).filter events = events := by
  unfold Verbosity.filter
  rw [List.filter_eq_self]
  intro event _
  cases event <;> rfl

/-! ## Operations -/

theorem FaultRecord.total_add (capacity : Nat) (fault : Fault) (record : FaultRecord) :
    (record.add capacity fault).total = record.total + 1 := by
  unfold add
  split
  · simp only [total, Array.size_push]
    omega
  · simp only [total]
    omega

/-- A lenient reader keeps or counts every fault of the units that it notes. -/
theorem FaultRecord.total_foldl_note {settings : Settings} (hlenient : settings.strict = false)
    (units : List Decoded) (record : FaultRecord) :
    (units.foldl (note settings) record).total = record.total + (Decoded.faults units).length := by
  induction units generalizing record with
  | nil => rfl
  | cons unit units ih =>
      rw [List.foldl_cons, ih, note_of_lenient hlenient]
      cases unit with
      | clean value => rfl
      | faulty fault =>
          show (record.add settings.capacity fault).total + _ = _
          rw [total_add, Decoded.faults_cons_faulty, List.length_cons]
          omega

namespace Reader

variable {σ : Type} [ByteSource σ]

/-- A strict reader decodes up to its first fault, which is thus the only one. -/
theorem faults_attempted {reader : Reader σ} (hstrict : reader.settings.strict = true)
    (type : Elementary) (count : Nat) :
    Decoded.faults (reader.attempted type count)
      = ((reader.attempted type count).findSome? Decoded.fault?).toList := by
  induction count generalizing reader with
  | zero => rfl
  | succ count ih =>
      rw [attempted_succ, Settings.surfaced?_of_strict hstrict]
      cases hunit : (reader.step type).1 with
      | faulty fault => rfl
      | clean value =>
          by_cases hend : (reader.step type).2.exhausted = true
          · simp [hend, Decoded.fault?]
          · have hmore := @ih (reader.step type).2 hstrict
            simpa [hend, Decoded.fault?, List.findSome?_cons] using hmore

/-- The tag that an operation asks for. -/
def Operation.tag? {σ : Type} : Operation σ → Option Tag
  | .readUnit tag | .readUnits tag _ => some tag
  | .takeFaults | .change _ => none

/-- An operation that asks for no unit of a decodable tag decodes none. -/
theorem units_of_idle {operation : Operation σ} (hidle : operation.tag?.any Tag.isDecodable = false)
    (reader : Reader σ) : reader.units operation = [] := by
  induction operation using Operation.casesByTag with
  | readUnit type | readUnits type count => simp [Operation.tag?] at hidle
  | refuseUnit tag htag | refuseUnits tag count htag => simp [units, htag]
  | takeFaults | change edit => rfl

/-- The tag of a single unit that is refused. Runs are refused without a word. -/
def Operation.refused? {σ : Type} : Operation σ → Option Tag
  | .readUnit tag => if tag.isDecodable then none else some tag
  | .readUnits _ _ | .takeFaults | .change _ => none

/-- The event that closes a run whose values are handed out. -/
def Operation.close? {σ : Type} (operation : Operation σ) (done : Performed σ) : Option Event :=
  match operation, done.response with
  | .readUnits tag count, .values _ => some (.run tag count done.reader.record.kept.size)
  | _, _ => none

/-- **The events of an operation**: a refusal, the units in order, the close of the run. -/
theorem events_perform (reader : Reader σ) (operation : Operation σ) :
    (reader.perform operation).events
      = operation.refused?.toList.map Event.refused
        ++ (reader.units operation).map Event.ofDecoded
        ++ (operation.close? (reader.perform operation)).toList := by
  induction operation using Operation.casesByTag with
  | readUnit type =>
      rw [perform_readUnit_tag]
      simp [units, Operation.refused?, Operation.close?]
  | readUnits type count =>
      have hunits := events_attempts type count reader
      rw [perform_readUnits_tag]
      split <;> simp [units, Operation.refused?, Operation.close?, hunits]
  | refuseUnit tag htag =>
      rw [perform_readUnit_unsupported htag]
      simp [units, htag, Operation.refused?, Operation.close?, Tag.isDecodable]
  | refuseUnits tag count htag =>
      rw [perform_readUnits_unsupported htag]
      simp [units, htag, Operation.refused?, Operation.close?]
  | takeFaults => rfl
  | change edit => rfl

omit [ByteSource σ] in
theorem close?_eq_some {operation : Operation σ} {done : Performed σ} {event : Event}
    (h : operation.close? done = some event) :
    ∃ tag count, operation = .readUnits tag count
      ∧ event = .run tag count done.reader.record.kept.size := by
  unfold Operation.close? at h
  split at h
  · exact ⟨_, _, rfl, (Option.some.inj h).symm⟩
  · cases h

/-- Some of the events of an operation, where the kind of event decides which. -/
theorem filter_perform (keep : Event → Bool) {refusals reports closes : Bool}
    (hrefusals : ∀ tag, keep (.refused tag) = refusals)
    (hreports : ∀ unit, keep (.ofDecoded unit) = reports)
    (hcloses : ∀ tag count faults, keep (.run tag count faults) = closes)
    (reader : Reader σ) (operation : Operation σ) :
    (reader.perform operation).events.filter keep
      = (if refusals then operation.refused?.toList.map Event.refused else [])
        ++ (if reports then (reader.units operation).map Event.ofDecoded else [])
        ++ (if closes then (operation.close? (reader.perform operation)).toList else []) := by
  have hconstant : ∀ (events : List Event) (kept : Bool), (∀ event ∈ events, keep event = kept) →
      events.filter keep = if kept then events else [] := by
    intro events kept h
    cases kept with
    | true => exact List.filter_eq_self.mpr h
    | false => exact List.filter_eq_nil_iff.mpr fun event hevent => by simp [h event hevent]
  rw [events_perform, List.filter_append, List.filter_append]
  rw [hconstant _ refusals, hconstant _ reports, hconstant _ closes]
  · intro event hevent
    obtain ⟨tag, count, -, rfl⟩ := close?_eq_some (Option.mem_toList.mp hevent)
    exact hcloses tag count _
  · intro event hevent
    obtain ⟨unit, -, rfl⟩ := List.mem_map.mp hevent
    exact hreports unit
  · intro event hevent
    obtain ⟨tag, -, rfl⟩ := List.mem_map.mp hevent
    exact hrefusals tag

/-- The reports of an operation are those of its units. -/
theorem reports_perform (reader : Reader σ) (operation : Operation σ) :
    (reader.perform operation).events.filter Event.isReport
      = (reader.units operation).map Event.ofDecoded := by
  have h := filter_perform Event.isReport (fun _ => rfl) Event.isReport_ofDecoded (fun _ _ _ => rfl)
    reader operation
  simpa using h

/-- The errors of an operation are its refusal. -/
theorem errors_perform (reader : Reader σ) (operation : Operation σ) :
    (reader.perform operation).events.filter (·.level == .error)
      = operation.refused?.toList.map Event.refused := by
  have hunits : ∀ unit, ((Event.ofDecoded unit).level == .error) = false := by
    intro unit
    cases unit <;> rfl
  have h := filter_perform (·.level == .error) (fun _ => rfl) hunits (fun _ _ _ => rfl)
    reader operation
  simpa using h

/-- What an operation says at the level of runs is the close of its run. -/
theorem closes_perform (reader : Reader σ) (operation : Operation σ) :
    (reader.perform operation).events.filter (·.level == .debug)
      = (operation.close? (reader.perform operation)).toList := by
  have hunits : ∀ unit, ((Event.ofDecoded unit).level == .debug) = false := by
    intro unit
    cases unit <;> rfl
  have h := filter_perform (·.level == .debug) (fun _ => rfl) hunits (fun _ _ _ => rfl)
    reader operation
  simpa using h

/-- A unit has the tag that was asked for. -/
theorem tag_of_mem_attempted {type : Elementary} {count : Nat} {reader : Reader σ} {unit : Decoded}
    (h : unit ∈ reader.attempted type count) : unit.value.tag = type.tag := by
  have hstep : ∀ reader : Reader σ, (reader.step type).1.value.tag = type.tag := by
    intro reader
    exact congrArg Elementary.tag (type.type_value_decode reader.source)
  induction count generalizing reader with
  | zero => cases h
  | succ count ih =>
      rw [attempted_succ] at h
      split at h
      · rw [List.mem_singleton.mp h]
        exact hstep reader
      · rcases List.mem_cons.mp h with rfl | hlater
        · exact hstep reader
        · exact ih hlater

/-- What the log tells of an operation of a reader. -/
structure Logged (reader : Reader σ) (operation : Operation σ) (done : Performed σ) : Prop where
  /-- The units are what the operation decodes one after another, and nothing but them changes the
      reader. -/
  decoded : Reads (operation.adjust reader) (reader.units operation) done.reader
  /-- They have the tag that was asked for. -/
  tagged : ∀ unit ∈ reader.units operation, operation.tag? = some unit.value.tag
  /-- Each of them has one report, in order. -/
  reported : List.Forall₂ Event.Reports (reader.units operation) (done.events.filter Event.isReport)
  /-- In a lenient reader the faults reported are those put on record or counted. -/
  recorded : reader.settings.strict = false →
    done.reader.record.total
      = (operation.adjust reader).record.total + (Decoded.faults (reader.units operation)).length
  /-- In a strict reader the fault reported is the one answered. -/
  answered : reader.settings.strict = true →
    Decoded.faults (reader.units operation) = match done.response with
      | .error (.fault fault) => [fault]
      | _ => []
  /-- A run that hands out its values is closed behind its reports, once. -/
  closed : ∀ values, done.response = .values values →
    ∃ tag count reports close, operation = .readUnits tag count ∧ done.events = reports ++ [close]
      ∧ close.Closes tag count done.reader.record.kept.size ∧ ∀ event ∈ reports, event.level ≠ .debug
  /-- Nothing else is closed. -/
  unclosed : (∀ values, done.response ≠ .values values) → ∀ event ∈ done.events, event.level ≠ .debug
  /-- Single units of a tag that cannot be decoded are refused with an error, and nothing else is. -/
  refused : done.events.filter (·.level == .error) = operation.refused?.toList.map Event.refused

/-- Only a run answers with values. -/
theorem exists_of_response_values {reader : Reader σ} {operation : Operation σ} {values : List Value}
    (h : (reader.perform operation).response = .values values) :
    ∃ tag count, operation = .readUnits tag count := by
  cases operation with
  | readUnits tag count => exact ⟨tag, count, rfl⟩
  | readUnit tag =>
      unfold perform at h
      dsimp only at h
      split at h <;> cases h
  | takeFaults | change edit => cases h

theorem faults_units_of_strict {reader : Reader σ} (hstrict : reader.settings.strict = true)
    (operation : Operation σ) :
    Decoded.faults (reader.units operation) = match (reader.perform operation).response with
      | .error (.fault fault) => [fault]
      | _ => [] := by
  induction operation using Operation.casesByTag with
  | readUnit type =>
      rw [perform_readUnit_tag, Settings.surfaced?_of_strict hstrict]
      cases hunit : (reader.step type).1 <;> simp [units, hunit, Decoded.fault?]
  | readUnits type count =>
      have hfaults := faults_attempted hstrict type count
      rw [response_of_strict hstrict]
      cases hfirst : (reader.attempted type count).findSome? Decoded.fault? <;>
        simpa [units, hfirst] using hfaults
  | refuseUnit tag htag =>
      rw [perform_readUnit_unsupported htag]
      simp [units, htag]
  | refuseUnits tag count htag =>
      rw [perform_readUnits_unsupported htag]
      simp [units, htag]
  | takeFaults => rfl
  | change edit => rfl

/-- **One operation.** -/
theorem logged_perform (reader : Reader σ) (operation : Operation σ) :
    Logged reader operation (reader.perform operation) := by
  have hreads := reads_perform reader operation
  have hcloses := closes_perform reader operation
  refine {
    decoded := hreads
    tagged := ?_, reported := ?_, recorded := ?_
    answered := fun hstrict => faults_units_of_strict hstrict operation
    closed := ?_, unclosed := ?_
    refused := errors_perform reader operation }
  · intro unit hunit
    induction operation using Operation.casesByTag with
    | readUnit type =>
        have hone : unit = (reader.step type).1 := by simpa [units] using hunit
        rw [hone]
        exact (congrArg (some ∘ Elementary.tag) (type.type_value_decode reader.source)).symm
    | readUnits type count =>
        have hmem : unit ∈ reader.attempted type count := by simpa [units] using hunit
        exact congrArg some (tag_of_mem_attempted hmem).symm
    | refuseUnit tag htag => simp [units, htag] at hunit
    | refuseUnits tag count htag => simp [units, htag] at hunit
    | takeFaults | change edit => cases hunit
  · rw [reports_perform]
    exact Event.forall₂_reports _
  · intro hlenient
    rw [hreads.record, FaultRecord.total_foldl_note]
    rw [Operation.settings_adjust]
    exact hlenient
  · intro values hvalues
    obtain ⟨tag, count, rfl⟩ := exists_of_response_values hvalues
    have hclose : (Operation.readUnits tag count).close? (reader.perform (.readUnits tag count))
        = some (.run tag count (reader.perform (.readUnits tag count)).reader.record.kept.size) := by
      unfold Operation.close?
      rw [hvalues]
    refine ⟨tag, count, (reader.units (.readUnits tag count)).map Event.ofDecoded,
      .run tag count (reader.perform (.readUnits tag count)).reader.record.kept.size, rfl, ?_,
      ⟨rfl, rfl, rfl⟩, ?_⟩
    · rw [events_perform, hclose]
      rfl
    · intro event hevent
      obtain ⟨unit, -, rfl⟩ := List.mem_map.mp hevent
      rw [Event.level_ofDecoded]
      split <;> decide
  · intro hnone event hevent hlevel
    have hopen : operation.close? (reader.perform operation) = none := by
      unfold Operation.close?
      split
      · exact absurd ‹_› (hnone _)
      · rfl
    rw [hopen] at hcloses
    exact List.filter_eq_nil_iff.mp hcloses event hevent (beq_iff_eq.mpr hlevel)

/-! ## Sessions -/

/-- What a session says, from its first operation to its last. -/
def narrative (reader : Reader σ) (operations : List (Operation σ)) : List Event :=
  (reader.performAll operations).flatMap Performed.events

theorem narrative_cons (reader : Reader σ) (operation : Operation σ) (operations : List (Operation σ)) :
    reader.narrative (operation :: operations)
      = (reader.perform operation).events ++ (reader.perform operation).reader.narrative operations :=
  List.flatMap_cons

/-- The reports of a session are those of the units that it decodes. -/
theorem reports_narrative (reader : Reader σ) (operations : List (Operation σ)) :
    (reader.narrative operations).filter Event.isReport
      = (reader.history operations).map Event.ofDecoded := by
  induction operations generalizing reader with
  | nil => rfl
  | cons operation operations ih =>
      rw [narrative_cons, List.filter_append, reports_perform, ih, history, List.map_append]

/-- The errors of a session are its refusals. -/
theorem errors_narrative (reader : Reader σ) (operations : List (Operation σ)) :
    (reader.narrative operations).filter (·.level == .error)
      = (operations.filterMap Operation.refused?).map Event.refused := by
  induction operations generalizing reader with
  | nil => rfl
  | cons operation operations ih =>
      rw [narrative_cons, List.filter_append, errors_perform, ih, List.filterMap_cons]
      cases operation.refused? <;> rfl

/-- Whether an answer is that of a run which hands out values. -/
def Response.isRun : Response → Bool
  | .values _ => true
  | .value _ | .faults _ | .changed | .error _ => false

/-- A session closes as many runs as hand out values. -/
theorem length_closes_narrative (reader : Reader σ) (operations : List (Operation σ)) :
    ((reader.narrative operations).filter (·.level == .debug)).length
      = ((reader.performAll operations).filter (·.response.isRun)).length := by
  induction operations generalizing reader with
  | nil => rfl
  | cons operation operations ih =>
      rw [narrative_cons, List.filter_append, closes_perform, List.length_append, ih, performAll,
        List.filter_cons]
      cases hanswer : (reader.perform operation).response with
      | values handed =>
          obtain ⟨tag, count, rfl⟩ := exists_of_response_values hanswer
          simp [Operation.close?, hanswer, Response.isRun, Nat.add_comm]
      | value _ | faults _ | changed | error _ =>
          simp [Operation.close?, hanswer, Response.isRun]

/-! ## The law -/

/-- **The log.** From any state of a reader, every operation is logged unit by unit, whatever becomes of
    a fault. So the warnings and traces of a session are the reports of all units that were decoded in
    it, in order; its errors are the refusals of single units; and it closes as many runs as hand out
    values. -/
theorem log_law :
    (∀ (reader : Reader σ) (operation : Operation σ),
        Logged reader operation (reader.perform operation))
      ∧ ∀ (source : σ) (settings : Settings) (operations : List (Operation σ)),
          let first := start source settings
          let log := (Verbosity.upTo .trace).filter (first.narrative operations)
          List.Forall₂ Event.Reports (first.history operations) (log.filter Event.isReport)
            ∧ log.filter (·.level == .error)
                = (operations.filterMap Operation.refused?).map Event.refused
            ∧ (log.filter (·.level == .debug)).length
                = ((first.performAll operations).filter (·.response.isRun)).length := by
  refine ⟨logged_perform, ?_⟩
  intro source settings operations first log
  have hlog : log = first.narrative operations := Verbosity.filter_trace _
  rw [hlog]
  refine ⟨?_, errors_narrative first operations, length_closes_narrative first operations⟩
  rw [reports_narrative]
  exact Event.forall₂_reports _

/-- A fault that finds no room on record is logged all the same. -/
example :
    let reader := start ([.data [1]] : Script) { capacity := 0 }
    let operations : List (Operation Script) := [.readUnits (Elementary.number .usint).tag 3]
    (reader.narrative operations).map Event.level = [.trace, .warn, .debug]
      ∧ (reader.after operations).record.kept.size = 0 := by
  decide

end Reader

end CipUnits
