import CipUnits.Session

/-!
# `CipUnits.Proofs.Run` — what a session does, unit by unit

The operations of a reader differ in when they stop and in what they answer. What they do to the reader
is always the same: they adjust it, and then they decode one unit after another. This file says so once
(`reads_perform`), so that a law about all sessions needs one step lemma about `Reader.step` and one
about `Operation.adjust`.

## Contents
- **One unit.** `Settings.surfaced?`, and `readUnit_tag`, which opens the reading of a decodable tag.
- **Runs.** `attempted`, the units that a run decodes; `attempts_succ` opens one round of a run, and
  `answer_attempts` says what a run answers.
- **Reading.** `Reads`, the relation between a reader and what decoding units makes of it.
- **Sessions.** `start` and `after`; `Query` and `Entry`, operations as data; `units` and `history`.
- **Operations.** Each one opened; the responses to a run, by mode and by what it meets;
  `reads_perform`.
-/

namespace CipUnits

/-- The faults among units, in order. -/
def Decoded.faults (units : List Decoded) : List Fault := units.filterMap Decoded.fault?

@[simp] theorem Decoded.faults_nil : Decoded.faults [] = [] := rfl

@[simp] theorem Decoded.faults_cons_clean (value : Value) (units : List Decoded) :
    Decoded.faults (.clean value :: units) = Decoded.faults units := rfl

@[simp] theorem Decoded.faults_cons_faulty (fault : Fault) (units : List Decoded) :
    Decoded.faults (.faulty fault :: units) = fault :: Decoded.faults units := rfl

/-- The fault that an event reports. -/
def Event.fault? : Event → Option Fault
  | .fault met => some met
  | .refused _ | .unit _ | .run _ _ _ | .started _ => none

@[simp] theorem Event.fault?_ofDecoded (unit : Decoded) : (Event.ofDecoded unit).fault? = unit.fault? := by
  cases unit <;> rfl

/-- The fault that a unit surfaces as an error: any fault in a strict reader, none in a lenient one. -/
def Settings.surfaced? (settings : Settings) (unit : Decoded) : Option Fault :=
  if settings.strict then unit.fault? else none

@[simp] theorem Settings.surfaced?_clean (settings : Settings) (value : Value) :
    settings.surfaced? (.clean value) = none := by
  simp [surfaced?, Decoded.fault?]

theorem Settings.surfaced?_of_lenient {settings : Settings} (hlenient : settings.strict = false)
    (unit : Decoded) : settings.surfaced? unit = none := by
  simp [surfaced?, hlenient]

theorem Settings.surfaced?_of_strict {settings : Settings} (hstrict : settings.strict = true)
    (unit : Decoded) : settings.surfaced? unit = unit.fault? := by
  simp [surfaced?, hstrict]

theorem Settings.surfaced?_eq_some_iff {settings : Settings} {unit : Decoded} {fault : Fault} :
    settings.surfaced? unit = some fault ↔ settings.strict = true ∧ unit = .faulty fault := by
  cases unit <;> simp [surfaced?, Decoded.fault?]

/-- A lenient reader puts a fault on record or counts it, if there is one. -/
theorem FaultRecord.note_of_lenient {settings : Settings} (hlenient : settings.strict = false)
    (record : FaultRecord) (unit : Decoded) :
    record.note settings unit = unit.fault?.elim record (record.add settings.capacity) := by
  cases unit with
  | clean value => rfl
  | faulty fault =>
      rw [note, hlenient]
      rfl

/-- A strict reader leaves its record as it is. -/
theorem FaultRecord.note_of_strict {settings : Settings} (hstrict : settings.strict = true)
    (record : FaultRecord) (unit : Decoded) : record.note settings unit = record := by
  cases unit with
  | clean value => rfl
  | faulty fault => rw [note, if_pos hstrict]

namespace Reader

variable {σ : Type} [ByteSource σ]

/-! ## One unit -/

@[simp] theorem settings_step (type : Elementary) (reader : Reader σ) :
    (reader.step type).2.settings = reader.settings := rfl

/-- A fault is one of the type that was asked for. -/
theorem type_of_step_faulty {type : Elementary} {reader : Reader σ} {fault : Fault}
    (h : (reader.step type).1 = .faulty fault) : fault.type = type := by
  have htype := type.type_value_decode reader.source
  rw [show (type.decode reader.source).unit = .faulty fault from h] at htype
  exact (Value.type_zero fault.type).symm.trans htype

/-- To read a decodable tag is one step, whose fault a strict reader surfaces. -/
theorem readUnit_tag (type : Elementary) (reader : Reader σ) :
    reader.readUnit type.tag =
      ⟨match reader.settings.surfaced? (reader.step type).1 with
        | some fault => .error (.fault fault)
        | none => .ok (reader.step type).1.value,
      (reader.step type).2, [.ofDecoded (reader.step type).1]⟩ := by
  unfold readUnit Settings.surfaced?
  rw [type.elementary?_tag]
  cases hfault : (reader.step type).1.fault? with
  | none => simp [hfault]
  | some fault => by_cases hstrict : reader.settings.strict = true <;> simp [hfault, hstrict]

/-! ## Runs -/

/-- The units that a run of a decodable type decodes, the one that ends it included. -/
def attempted (type : Elementary) : (count : Nat) → Reader σ → List Decoded
  | 0, _ => []
  | count + 1, reader =>
      let (unit, after) := reader.step type
      if (reader.settings.surfaced? unit).isSome || after.exhausted then [unit]
      else unit :: attempted type count after

theorem attempted_succ (type : Elementary) (count : Nat) (reader : Reader σ) :
    reader.attempted type (count + 1) =
      if (reader.settings.surfaced? (reader.step type).1).isSome || (reader.step type).2.exhausted then
        [(reader.step type).1]
      else (reader.step type).1 :: (reader.step type).2.attempted type count := rfl

/-- One round of a run: it ends at a surfaced fault and at the end of the source, else it goes on. -/
theorem attempts_succ (type : Elementary) (count : Nat) (reader : Reader σ) :
    reader.attempts type.tag (count + 1) =
      match reader.settings.surfaced? (reader.step type).1 with
      | some fault => ⟨.error (.fault fault), (reader.step type).2, [.ofDecoded (reader.step type).1]⟩
      | none =>
          if (reader.step type).2.exhausted then
            ⟨.ok [(reader.step type).1.value], (reader.step type).2, [.ofDecoded (reader.step type).1]⟩
          else
            let more := (reader.step type).2.attempts type.tag count
            ⟨more.answer.map ((reader.step type).1.value :: ·), more.reader,
              .ofDecoded (reader.step type).1 :: more.events⟩ := by
  rw [attempts, readUnit_tag]
  cases reader.settings.surfaced? (reader.step type).1 with
  | some fault => rfl
  | none => rfl

/-- A run reports the units that it decodes, in order. -/
theorem events_attempts (type : Elementary) (count : Nat) (reader : Reader σ) :
    (reader.attempts type.tag count).events = (reader.attempted type count).map Event.ofDecoded := by
  induction count generalizing reader with
  | zero => rfl
  | succ count ih =>
      rw [attempts_succ, attempted]
      cases hs : reader.settings.surfaced? (reader.step type).1 with
      | some fault => simp [hs]
      | none =>
          by_cases he : (reader.step type).2.exhausted = true
          · simp [hs, he]
          · simp [hs, he, ih]

/-- A run answers with the values of the units that it decodes, or with the fault that one of them
    surfaces. -/
theorem answer_attempts (type : Elementary) (count : Nat) (reader : Reader σ) :
    (reader.attempts type.tag count).answer =
      match (reader.attempted type count).findSome? reader.settings.surfaced? with
      | some fault => .error (.fault fault)
      | none => .ok ((reader.attempted type count).map Decoded.value) := by
  induction count generalizing reader with
  | zero => rfl
  | succ count ih =>
      have hmore := ih (reader.step type).2
      rw [attempts_succ, attempted]
      cases hs : reader.settings.surfaced? (reader.step type).1 with
      | some fault => simp [hs]
      | none =>
          by_cases he : (reader.step type).2.exhausted = true
          · simp [hs, he]
          · simp only [hs, he, Option.isSome_none, Bool.or_self, Bool.false_eq_true, if_false,
              List.findSome?_cons, hmore, settings_step]
            cases ((reader.step type).2.attempted type count).findSome? reader.settings.surfaced? <;> rfl

/-! ## Reading -/

/-- One reader becomes another by decoding units, the first one first. -/
inductive Reads : Reader σ → List Decoded → Reader σ → Prop where
  | refl {reader : Reader σ} : Reads reader [] reader
  | head {reader last : Reader σ} {units : List Decoded} (type : Elementary) :
      Reads (reader.step type).2 units last → Reads reader ((reader.step type).1 :: units) last

theorem Reads.single (type : Elementary) (reader : Reader σ) :
    Reads reader [(reader.step type).1] (reader.step type).2 := .head type .refl

theorem Reads.settings {reader last : Reader σ} {units : List Decoded} (h : Reads reader units last) :
    last.settings = reader.settings := by
  induction h with
  | refl => rfl
  | head type _ ih => exact ih

/-- The record after reading: every unit was noted, in order. -/
theorem Reads.record {reader last : Reader σ} {units : List Decoded} (h : Reads reader units last) :
    last.record = units.foldl (FaultRecord.note reader.settings) reader.record := by
  induction h with
  | refl => rfl
  | head type _ ih => exact ih

/-- A run decodes the units that it attempts, and does nothing else to the reader. -/
theorem reads_attempts (type : Elementary) (count : Nat) (reader : Reader σ) :
    Reads reader (reader.attempted type count) (reader.attempts type.tag count).reader := by
  induction count generalizing reader with
  | zero => exact .refl
  | succ count ih =>
      rw [attempts_succ, attempted]
      cases hs : reader.settings.surfaced? (reader.step type).1 with
      | some fault => simpa [hs] using Reads.single type reader
      | none =>
          -- a run stops for the end of the source only behind the unit that shows it
          cases he : (reader.step type).2.exhausted with
          | true => simpa [hs, he] using Reads.single type reader
          | false => simpa [hs, he] using Reads.head type (ih (reader.step type).2)

/-! ## Sessions -/

/-- A reader that has not read anything. -/
def start (source : σ) (settings : Settings) : Reader σ := { source, settings }

/-- The reader after a session. -/
def after (reader : Reader σ) (operations : List (Operation σ)) : Reader σ :=
  operations.foldl (fun reader operation => (reader.perform operation).reader) reader

@[simp] theorem after_nil (reader : Reader σ) : reader.after [] = reader := rfl

@[simp] theorem after_cons (reader : Reader σ) (operation : Operation σ)
    (operations : List (Operation σ)) :
    reader.after (operation :: operations) = (reader.perform operation).reader.after operations := rfl

/-- What can be asked of a reader whatever its source is. -/
inductive Query where
  | readUnit (tag : Tag)
  | readUnits (tag : Tag) (count : Nat)
  | takeFaults
deriving DecidableEq, Repr

/-- The operation of a query. -/
def Query.operation : Query → Operation σ
  | readUnit tag => .readUnit tag
  | readUnits tag count => .readUnits tag count
  | takeFaults => .takeFaults

/-- An entry of a session: a query, or an edit of the source that is described by a value. -/
inductive Entry (ε : Type) where
  | query (asked : Query)
  | edit (edited : ε)
deriving DecidableEq, Repr

/-- The operation of an entry, given what edits do. -/
def Entry.operation {ε : Type} (apply : ε → σ → σ) : Entry ε → Operation σ
  | query asked => asked.operation
  | edit edited => .change (apply edited)

/-- What an operation changes before any unit is decoded. -/
def Operation.adjust : Operation σ → Reader σ → Reader σ
  | .takeFaults, reader => { reader with record := {} }
  | .change edit, reader => reader.mapSource edit
  | .readUnit _, reader | .readUnits _ _, reader => reader

omit [ByteSource σ] in
@[simp] theorem Operation.settings_adjust (operation : Operation σ) (reader : Reader σ) :
    (operation.adjust reader).settings = reader.settings := by
  cases operation <;> rfl

/-- The units that an operation decodes, whatever becomes of them. -/
def units (reader : Reader σ) : Operation σ → List Decoded
  | .readUnit tag => (tag.elementary?.map fun type => [(reader.step type).1]).getD []
  | .readUnits tag count => (tag.elementary?.map fun type => reader.attempted type count).getD []
  | .takeFaults | .change _ => []

/-- The units that a session decodes. -/
def history (reader : Reader σ) : List (Operation σ) → List Decoded
  | [] => []
  | operation :: operations =>
      reader.units operation ++ history (reader.perform operation).reader operations

omit [ByteSource σ] in
/-- Every tag that is read either belongs to an elementary type or is refused. -/
@[elab_as_elim]
theorem Operation.casesByTag {motive : Operation σ → Prop}
    (readUnit : ∀ type : Elementary, motive (.readUnit type.tag))
    (readUnits : ∀ (type : Elementary) (count : Nat), motive (.readUnits type.tag count))
    (refuseUnit : ∀ tag : Tag, tag.elementary? = none → motive (.readUnit tag))
    (refuseUnits : ∀ (tag : Tag) (count : Nat), tag.elementary? = none → motive (.readUnits tag count))
    (takeFaults : motive .takeFaults) (change : ∀ edit : σ → σ, motive (.change edit))
    (operation : Operation σ) : motive operation := by
  cases operation with
  | readUnit tag =>
      cases htag : tag.elementary? with
      | none => exact refuseUnit tag htag
      | some type => exact Tag.elementary?_eq_some_iff.mp htag ▸ readUnit type
  | readUnits tag count =>
      cases htag : tag.elementary? with
      | none => exact refuseUnits tag count htag
      | some type => exact Tag.elementary?_eq_some_iff.mp htag ▸ readUnits type count
  | takeFaults => exact takeFaults
  | change edit => exact change edit

/-! ## Operations -/

theorem perform_readUnit_tag (type : Elementary) (reader : Reader σ) :
    reader.perform (.readUnit type.tag) =
      ⟨match reader.settings.surfaced? (reader.step type).1 with
        | some fault => .error (.fault fault)
        | none => .value (reader.step type).1.value,
      (reader.step type).2, [.ofDecoded (reader.step type).1]⟩ := by
  simp only [perform, readUnit_tag]
  cases reader.settings.surfaced? (reader.step type).1 with
  | some fault => rfl
  | none => rfl

theorem perform_readUnits_tag (type : Elementary) (count : Nat) (reader : Reader σ) :
    reader.perform (.readUnits type.tag count) =
      match (reader.attempts type.tag count).answer with
      | .error e =>
          ⟨.error e, (reader.attempts type.tag count).reader, (reader.attempts type.tag count).events⟩
      | .ok values =>
          ⟨.values values, (reader.attempts type.tag count).reader,
            (reader.attempts type.tag count).events
              ++ [.run type.tag count (reader.attempts type.tag count).reader.record.kept.size]⟩ := by
  simp only [perform, readUnits, type.isDecodable_tag, if_true]
  cases hanswer : (reader.attempts type.tag count).answer with
  | error e =>
      dsimp only
      rw [hanswer]
  | ok values => rfl

theorem reader_readUnits_tag (type : Elementary) (count : Nat) (reader : Reader σ) :
    (reader.perform (.readUnits type.tag count)).reader = (reader.attempts type.tag count).reader := by
  rw [perform_readUnits_tag]
  cases (reader.attempts type.tag count).answer with
  | error e => rfl
  | ok values => rfl

/-- A run answers with the values of the units that it decodes, or with the fault that one of them
    surfaces. -/
theorem response_readUnits_tag (type : Elementary) (count : Nat) (reader : Reader σ) :
    (reader.perform (.readUnits type.tag count)).response =
      match (reader.attempted type count).findSome? reader.settings.surfaced? with
      | some fault => .error (.fault fault)
      | none => .values ((reader.attempted type count).map Decoded.value) := by
  rw [perform_readUnits_tag, answer_attempts]
  cases (reader.attempted type count).findSome? reader.settings.surfaced? with
  | some fault => rfl
  | none => rfl

/-- A lenient reader answers to a run with the values of all units that it decodes. -/
theorem response_of_lenient {reader : Reader σ} (hlenient : reader.settings.strict = false)
    (type : Elementary) (count : Nat) :
    (reader.perform (.readUnits type.tag count)).response
      = .values ((reader.attempted type count).map Decoded.value) := by
  have hnone : (reader.attempted type count).findSome? reader.settings.surfaced? = none := by
    simp [List.findSome?_eq_none_iff, Settings.surfaced?_of_lenient hlenient]
  rw [response_readUnits_tag, hnone]

/-- A strict reader answers to a run with its first fault, if there is one. -/
theorem response_of_strict {reader : Reader σ} (hstrict : reader.settings.strict = true)
    (type : Elementary) (count : Nat) :
    (reader.perform (.readUnits type.tag count)).response =
      match (reader.attempted type count).findSome? Decoded.fault? with
      | some fault => .error (.fault fault)
      | none => .values ((reader.attempted type count).map Decoded.value) := by
  have hfaults : reader.settings.surfaced? = Decoded.fault? :=
    funext (Settings.surfaced?_of_strict hstrict)
  rw [response_readUnits_tag, hfaults]

/-- A run of clean units answers with their values. -/
theorem response_of_clean {type : Elementary} {count : Nat} {reader : Reader σ} {values : List Value}
    (hunits : reader.attempted type count = values.map Decoded.clean) :
    (reader.perform (.readUnits type.tag count)).response = .values values := by
  have hnone : (values.map Decoded.clean).findSome? reader.settings.surfaced? = none := by
    simp [List.findSome?_eq_none_iff]
  rw [response_readUnits_tag, hunits, hnone]
  simp [Function.comp_def, Decoded.value]

/-- A run that ends with its only fault answers with the zero of the type behind the values of the clean
    units, or with the fault if the reader is strict. -/
theorem response_of_faulty {type : Elementary} {count : Nat} {reader : Reader σ} {values : List Value}
    {fault : Fault}
    (hunits : reader.attempted type count = values.map Decoded.clean ++ [.faulty fault]) :
    (reader.perform (.readUnits type.tag count)).response
      = if reader.settings.strict then .error (.fault fault)
        else .values (values ++ [.zero fault.type]) := by
  cases hmode : reader.settings.strict with
  | true =>
      have hnone : (values.map Decoded.clean).findSome? Decoded.fault? = none := by
        simp [List.findSome?_eq_none_iff, Decoded.fault?]
      rw [response_of_strict hmode, hunits, List.findSome?_append, hnone]
      rfl
  | false =>
      rw [response_of_lenient hmode, hunits]
      simp [Function.comp_def, Decoded.value]

theorem perform_readUnit_unsupported {tag : Tag} (htag : tag.elementary? = none) (reader : Reader σ) :
    reader.perform (.readUnit tag) = ⟨.error (.unsupported tag), reader, [.refused tag]⟩ := by
  have hnot : tag.isDecodable = false := by simp [Tag.isDecodable, htag]
  simp only [perform, readUnit_of_not_decodable hnot]

theorem perform_readUnits_unsupported {tag : Tag} (htag : tag.elementary? = none) (count : Nat)
    (reader : Reader σ) :
    reader.perform (.readUnits tag count) = ⟨.error (.unsupported tag), reader, []⟩ := by
  simp [perform, readUnits, Tag.isDecodable, htag]

/-- **Every operation adjusts the reader and then decodes units.** -/
theorem reads_perform (reader : Reader σ) (operation : Operation σ) :
    Reads (operation.adjust reader) (reader.units operation) (reader.perform operation).reader := by
  induction operation using Operation.casesByTag with
  | readUnit type =>
      rw [perform_readUnit_tag]
      simpa [units, Operation.adjust] using Reads.single type reader
  | readUnits type count =>
      have hrun := reads_attempts type count reader
      rw [perform_readUnits_tag]
      split <;> simpa [units, Operation.adjust] using hrun
  | refuseUnit tag htag =>
      rw [perform_readUnit_unsupported htag]
      simpa [units, Operation.adjust, htag] using @Reads.refl σ _ reader
  | refuseUnits tag count htag =>
      rw [perform_readUnits_unsupported htag]
      simpa [units, Operation.adjust, htag] using @Reads.refl σ _ reader
  | takeFaults => exact .refl
  | change edit => exact .refl

/-- The faults that an operation reports are those of the units that it decodes. -/
theorem faults_events_perform (reader : Reader σ) (operation : Operation σ) :
    (reader.perform operation).events.filterMap Event.fault? = Decoded.faults (reader.units operation) := by
  induction operation using Operation.casesByTag with
  | readUnit type =>
      rw [perform_readUnit_tag]
      simp [units, Decoded.faults, List.filterMap_cons]
  | readUnits type count =>
      have hrun : (reader.attempts type.tag count).events.filterMap Event.fault?
          = Decoded.faults (reader.attempted type count) := by
        have hreports : Event.fault? ∘ Event.ofDecoded = Decoded.fault? := funext Event.fault?_ofDecoded
        rw [events_attempts, List.filterMap_map, hreports, Decoded.faults]
      rw [perform_readUnits_tag]
      split <;> simp [units, hrun, Event.fault?]
  | refuseUnit tag htag =>
      rw [perform_readUnit_unsupported htag]
      simp [units, htag, Event.fault?]
  | refuseUnits tag count htag =>
      rw [perform_readUnits_unsupported htag]
      simp [units, htag]
  | takeFaults | change edit => rfl

theorem settings_perform (reader : Reader σ) (operation : Operation σ) :
    (reader.perform operation).reader.settings = reader.settings := by
  rw [(reads_perform reader operation).settings, Operation.settings_adjust]

end Reader

end CipUnits
