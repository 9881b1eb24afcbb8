import CipUnits.Proofs.Simulation
import CipUnits.Source.Script

/-!
# `CipUnits.Proofs.Record` — what stands on record

The record of a lenient reader is a function of its capacity and of the faults met since the record was
last taken, whatever session led to it: the first faults are kept, the others counted. A strict reader
puts nothing on record. The capacity is of no consequence for anything else.

## Contents
- `FaultRecord.ofFaults` — the record of a list of faults; `ofFaults_add` and `foldl_note`.
- `pendingFaults` — the faults met since the record was last taken.
- `record_after_of_lenient`, `record_after_of_strict` — the record after any session.
- `record_law` — both, with the law of `takeFaults` and two readers of different capacity.
-/

namespace CipUnits

/-! ## Records of known faults -/

namespace FaultRecord

/-- The record of a list of faults, oldest first: the first ones are kept, the others counted. -/
def ofFaults (capacity : Nat) (faults : List Fault) : FaultRecord :=
  ⟨(faults.take capacity).toArray, faults.length - capacity⟩

theorem ofFaults_add (capacity : Nat) (faults : List Fault) (fault : Fault) :
    (ofFaults capacity faults).add capacity fault = ofFaults capacity (faults ++ [fault]) := by
  have hsize : (ofFaults capacity faults).kept.size = min capacity faults.length := by simp [ofFaults]
  unfold add
  rw [hsize]
  by_cases hroom : faults.length < capacity
  · -- with room left, all faults were kept and the new one is as well
    have hall : faults.take capacity = faults := List.take_of_length_le (by omega)
    have hall' : (faults ++ [fault]).take capacity = faults ++ [fault] :=
      List.take_of_length_le (by simp; omega)
    rw [if_pos (by omega)]
    simp only [ofFaults, hall, hall', List.push_toArray, List.length_append, List.length_singleton,
      FaultRecord.mk.injEq, true_and]
    omega
  · rw [if_neg (by omega)]
    simp only [ofFaults, List.take_append_of_le_length (Nat.le_of_not_lt hroom), List.length_append,
      List.length_singleton, FaultRecord.mk.injEq, true_and]
    omega

/-- Noting units adds their faults to the record of a lenient reader. -/
theorem foldl_note {settings : Settings} (hlenient : settings.strict = false) (units : List Decoded)
    (faults : List Fault) :
    units.foldl (note settings) (ofFaults settings.capacity faults)
      = ofFaults settings.capacity (faults ++ Decoded.faults units) := by
  induction units generalizing faults with
  | nil => simp
  | cons unit units ih =>
      cases unit with
      | clean value => simpa [note] using ih faults
      | faulty fault => simpa [note, hlenient, ofFaults_add] using ih (faults ++ [fault])

/-- Noting units leaves the record of a strict reader as it was. -/
theorem foldl_note_of_strict {settings : Settings} (hstrict : settings.strict = true)
    (units : List Decoded) (record : FaultRecord) : units.foldl (note settings) record = record := by
  induction units with
  | nil => rfl
  | cons unit units ih => cases unit <;> simpa [note, hstrict] using ih

end FaultRecord

namespace Reader

variable {σ : Type} [ByteSource σ]

/-! ## The record after a session -/

/-- The faults that an operation leaves pending: none once the record was taken. -/
def Operation.leave : Operation σ → List Fault → List Fault
  | .takeFaults, _ => []
  | .readUnit _, faults | .readUnits _ _, faults | .change _, faults => faults

/-- The faults met in a session since the record was last taken, oldest first. Those that were pending
    before the session are given. -/
def pendingFaults (pending : List Fault) (reader : Reader σ) : List (Operation σ) → List Fault
  | [] => pending
  | operation :: operations =>
      pendingFaults (operation.leave pending ++ Decoded.faults (reader.units operation))
        (reader.perform operation).reader operations

omit [ByteSource σ] in
theorem Operation.record_adjust (operation : Operation σ) {reader : Reader σ} {pending : List Fault}
    (h : reader.record = .ofFaults reader.settings.capacity pending) :
    (operation.adjust reader).record = .ofFaults reader.settings.capacity (operation.leave pending) := by
  cases operation with
  | takeFaults => simp [adjust, leave, FaultRecord.ofFaults]
  | readUnit _ | readUnits _ _ | change _ => exact h

/-- **One operation.** The record of a lenient reader goes on being that of the pending faults. -/
theorem record_perform {reader : Reader σ} {pending : List Fault}
    (hlenient : reader.settings.strict = false)
    (h : reader.record = .ofFaults reader.settings.capacity pending) (operation : Operation σ) :
    (reader.perform operation).reader.record
      = .ofFaults reader.settings.capacity
          (operation.leave pending ++ Decoded.faults (reader.units operation)) := by
  rw [(reads_perform reader operation).record, Operation.settings_adjust, operation.record_adjust h,
    FaultRecord.foldl_note hlenient]

/-- **Any session.** The record of a lenient reader is that of the pending faults. -/
theorem record_after_of_lenient {reader : Reader σ} {pending : List Fault}
    (hlenient : reader.settings.strict = false)
    (h : reader.record = .ofFaults reader.settings.capacity pending) (operations : List (Operation σ)) :
    (reader.after operations).record
      = .ofFaults reader.settings.capacity (reader.pendingFaults pending operations) := by
  induction operations generalizing reader pending with
  | nil => exact h
  | cons operation operations ih =>
      have hsettings := settings_perform reader operation
      have hdone := record_perform hlenient h operation
      have hlater := ih (by rw [hsettings]; exact hlenient) (by rw [hsettings]; exact hdone)
      rw [hsettings] at hlater
      exact hlater

/-- The record of a strict reader stays empty. -/
theorem record_after_of_strict {reader : Reader σ} (hstrict : reader.settings.strict = true)
    (h : reader.record = {}) (operations : List (Operation σ)) :
    (reader.after operations).record = {} := by
  induction operations generalizing reader with
  | nil => exact h
  | cons operation operations ih =>
      have hadjust : (operation.adjust reader).record = {} := by
        cases operation with
        | takeFaults => rfl
        | readUnit _ | readUnits _ _ | change _ => exact h
      apply ih
      · rw [settings_perform]
        exact hstrict
      · rw [(reads_perform reader operation).record, Operation.settings_adjust,
          FaultRecord.foldl_note_of_strict hstrict]
        exact hadjust

/-! ## The capacity -/

theorem Alike.pendingFaults {first second : Reader σ} (h : Alike Eq first second) (pending : List Fault)
    (operations : List (Operation σ)) :
    first.pendingFaults pending operations = second.pendingFaults pending operations := by
  induction operations generalizing first second pending with
  | nil => rfl
  | cons operation operations ih =>
      have hop := Operation.Alike.refl operation
      simp only [Reader.pendingFaults, h.units .refl hop]
      exact ih (h.perform .refl hop).1.reader _

/-! ## The law -/

/-- **The record law.** After any session, the record of a lenient reader keeps the first faults met
    since it was last taken, up to the capacity, and counts the others; taking the record hands over the
    kept faults and leaves it empty; the record of a strict reader is always empty. Readers that differ
    in their capacity meet the same faults, take the same bytes and answer alike. -/
theorem record_law (source : σ) (settings : Settings) (operations : List (Operation σ)) :
    let reader := (start source settings).after operations
    let faults := (start source settings).pendingFaults [] operations
    (settings.strict = false →
        reader.record.kept.toList = faults.take settings.capacity
        ∧ reader.record.kept.size = min faults.length settings.capacity
        ∧ reader.record.dropped = faults.length - min faults.length settings.capacity
        ∧ (0 < reader.record.dropped → reader.record.kept.size = settings.capacity))
      ∧ (settings.strict = true → reader.record = {})
      ∧ reader.perform .takeFaults
          = ⟨.faults reader.record.kept.toList, { reader with record := {} }, []⟩
      ∧ ∀ capacity : Nat,
          List.Forall₂ (Performed.Alike Eq) ((start source settings).performAll operations)
              ((start source { settings with capacity }).performAll operations)
            ∧ (start source { settings with capacity }).pendingFaults [] operations = faults := by
  intro reader faults
  refine ⟨?_, ?_, rfl, ?_⟩
  · intro hlenient
    have hrecord : reader.record = .ofFaults settings.capacity faults :=
      record_after_of_lenient hlenient (by simp [start, FaultRecord.ofFaults]) operations
    have hsize : reader.record.kept.size = min faults.length settings.capacity := by
      simp [hrecord, FaultRecord.ofFaults, Nat.min_comm]
    have hdropped : reader.record.dropped = faults.length - settings.capacity := by
      rw [hrecord, FaultRecord.ofFaults]
    refine ⟨by rw [hrecord, FaultRecord.ofFaults], hsize, ?_, ?_⟩ <;> omega
  · intro hstrict
    exact record_after_of_strict hstrict rfl operations
  · intro capacity
    have halike : Alike Eq (start source settings) (start source { settings with capacity }) :=
      ⟨rfl, rfl, rfl, rfl⟩
    have hops : List.Forall₂ (Operation.Alike Eq) operations operations :=
      List.forall₂_same.mpr fun operation _ => .refl operation
    exact ⟨halike.performAll .refl hops, (halike.pendingFaults [] operations).symm⟩

/-- Five units asked of an empty source, with room for two faults. -/
theorem record_law_of_five_faults :
    let settings : Settings := { capacity := 2 }
    let operations : List (Operation Script) := List.replicate 5 (.readUnit (Elementary.number .real).tag)
    settings.strict = false
      ∧ ((start [] settings).after operations).record.kept.size = 2
      ∧ ((start [] settings).after operations).record.dropped = 3 := by
  intro settings operations
  obtain ⟨-, hsize, hdropped, -⟩ := (record_law [] settings operations).1 rfl
  exact ⟨rfl, hsize.trans (by decide), hdropped.trans (by decide)⟩

end Reader

end CipUnits
