import CipUnits.Log

/-!
# `CipUnits.Reader` — runs of units from one source

A reader decodes one unit after another. It counts the bytes it takes, keeps a bounded record of the
faults it meets and remembers whether the source has ever been at its end. A lenient reader hands out
the zero value for a unit that faulted, a strict one the fault instead.

## Contents
- `Settings`, `FaultRecord` and `Reader`.
- `Reader.step` — one unit of a decodable type; `Reader.readUnit` — one unit of any tag.
- `Reader.attempts` — units until the count is reached, one is refused or the source has ended;
  `Reader.readUnits`, which refuses a tag at once.
- `Reader.takeFaults` and `Reader.mapSource`.
-/

namespace CipUnits

/-! ## State -/

/-- How a reader treats faults. -/
structure Settings where
  /-- Whether a fault is an error rather than put on record. -/
  strict : Bool := false
  /-- How many faults the record holds; later ones are only counted. -/
  capacity : Nat := 1024
deriving DecidableEq, Repr

/-- The faults met so far: the first ones, oldest first, and how many came after these. -/
structure FaultRecord where
  kept : Array Fault := #[]
  dropped : Nat := 0
deriving DecidableEq, Repr

/-- The record with one more fault, kept if there is room for it. -/
def FaultRecord.add (capacity : Nat) (fault : Fault) (record : FaultRecord) : FaultRecord :=
  if record.kept.size < capacity then { record with kept := record.kept.push fault }
  else { record with dropped := record.dropped + 1 }

/-- The record after a unit: a lenient reader puts every fault on record, a strict one none. -/
def FaultRecord.note (settings : Settings) (record : FaultRecord) : Decoded → FaultRecord
  | .clean _ => record
  | .faulty fault => if settings.strict then record else record.add settings.capacity fault

/-- The number of all faults met. -/
def FaultRecord.total (record : FaultRecord) : Nat := record.kept.size + record.dropped

/-- A reader of units from a source. -/
structure Reader (σ : Type) where
  source : σ
  settings : Settings := {}
  /-- The bytes taken from the source so far. -/
  consumed : Nat := 0
  record : FaultRecord := {}
  /-- Whether the source has ever been at its end. -/
  exhausted : Bool := false

/-- Why a reader did not hand out values. -/
inductive ReadError where
  | unsupported (tag : Tag)
  /-- A fault met by a strict reader. -/
  | fault (fault : Fault)
deriving DecidableEq, Repr

/-- The message of an error. -/
def ReadError.message : ReadError → String
  | unsupported tag => UnsupportedTag.message ⟨tag⟩
  | fault f => f.message

/-- What an operation came to: its answer, the reader after it and the events on the way. -/
structure Reader.Outcome (σ α : Type) where
  answer : Except ReadError α
  reader : Reader σ
  events : List Event

namespace Reader

variable {σ : Type} [ByteSource σ]

/-! ## One unit -/

/-- Decodes one unit and takes note of what happened. -/
def step (type : Elementary) (reader : Reader σ) : Decoded × Reader σ :=
  let decoding := type.decode reader.source
  (decoding.unit,
    { reader with
      source := decoding.rest
      consumed := reader.consumed + decoding.used
      record := reader.record.note reader.settings decoding.unit
      exhausted := reader.exhausted || decoding.unit.metEnd })

/-- Decodes one unit of a tag to its value. -/
def readUnit (tag : Tag) (reader : Reader σ) : Outcome σ Value :=
  match tag.elementary? with
  | none => ⟨.error (.unsupported tag), reader, [.refused tag]⟩
  | some type =>
      let (unit, after) := reader.step type
      let answer := match unit.fault? with
        | some fault => if reader.settings.strict then .error (.fault fault) else .ok unit.value
        | none => .ok unit.value
      ⟨answer, after, [.ofDecoded unit]⟩

/-- A tag that is not decodable is refused and leaves the reader as it was. -/
theorem readUnit_of_not_decodable {tag : Tag} (h : tag.isDecodable = false) (reader : Reader σ) :
    reader.readUnit tag = ⟨.error (.unsupported tag), reader, [.refused tag]⟩ := by
  have hnone : tag.elementary? = none := by
    unfold Tag.isDecodable at h
    exact Option.not_isSome_iff_eq_none.mp (by rw [h]; exact Bool.false_ne_true)
  unfold readUnit
  rw [hnone]

/-! ## Runs -/

/-- Decodes up to `count` units of a tag to their values. A run ends at an error and behind the first unit
    after which the source is known to have ended. -/
def attempts (tag : Tag) : (count : Nat) → Reader σ → Outcome σ (List Value)
  | 0, reader => ⟨.ok [], reader, []⟩
  | count + 1, reader =>
      let one := reader.readUnit tag
      match one.answer with
      | .error e => { one with answer := .error e }
      | .ok value =>
          if one.reader.exhausted then { one with answer := .ok [value] }
          else
            let more := attempts tag count one.reader
            ⟨more.answer.map (value :: ·), more.reader, one.events ++ more.events⟩

/-- Decodes up to `count` units of a tag to their values. A tag that cannot be decoded is refused at
    once, whatever the count. -/
def readUnits (tag : Tag) (count : Nat) (reader : Reader σ) : Outcome σ (List Value) :=
  if tag.isDecodable then
    let run := reader.attempts tag count
    match run.answer with
    | .error _ => run
    | .ok _ => { run with events := run.events ++ [.run tag count run.reader.record.kept.size] }
  else ⟨.error (.unsupported tag), reader, []⟩

/-! ## The record and the source -/

omit [ByteSource σ] in
/-- The faults on record, and the reader with an empty record. -/
def takeFaults (reader : Reader σ) : List Fault × Reader σ :=
  (reader.record.kept.toList, { reader with record := {} })

omit [ByteSource σ] in
/-- The reader with its source changed. -/
def mapSource (change : σ → σ) (reader : Reader σ) : Reader σ :=
  { reader with source := change reader.source }

end Reader

end CipUnits
