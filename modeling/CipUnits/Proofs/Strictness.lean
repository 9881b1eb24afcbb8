import CipUnits.Proofs.Run
import CipUnits.Source.Script

/-!
# `CipUnits.Proofs.Strictness` — strict and lenient readers side by side

A reader takes the bytes of a unit, counts them and notes the end of its source before it looks at its
mode. So a strict and a lenient reader on the same source stay together, unit by unit, whatever faults
they meet: the mode decides only whether a fault is answered or put on record. In a run they part at the
first fault, where the strict reader stops and the lenient one goes on.

## Contents
- `Paired` — a strict and a lenient reader that share source, count and end.
- **Units.** `Paired.perform` and `Paired.after`, every session of single units; `Paired.readUnit`.
- **Runs.** `Paired.attempted`, up to the first fault; `Paired.readUnits`.
- `lockstep_law` — sessions, units and runs.
-/

namespace CipUnits

theorem Decoded.head?_faults (units : List Decoded) :
    (Decoded.faults units).head? = units.findSome? Decoded.fault? := List.head?_filterMap

namespace Reader

variable {σ : Type} [ByteSource σ]

/-- The faults that an operation met, as its events report them. -/
def Performed.faults {σ : Type} (done : Performed σ) : List Fault := done.events.filterMap Event.fault?

theorem faults_perform (reader : Reader σ) (operation : Operation σ) :
    (reader.perform operation).faults = Decoded.faults (reader.units operation) :=
  faults_events_perform reader operation

/-- A strict and a lenient reader that share their source, its count and its end. -/
structure Paired (strict lenient : Reader σ) : Prop where
  isStrict : strict.settings.strict = true
  isLenient : lenient.settings.strict = false
  source : strict.source = lenient.source
  consumed : strict.consumed = lenient.consumed
  exhausted : strict.exhausted = lenient.exhausted

variable {strict lenient : Reader σ}

/-! ## Units -/

theorem Paired.unit_step (h : Paired strict lenient) (type : Elementary) :
    (strict.step type).1 = (lenient.step type).1 := by
  simp only [Reader.step, h.source]

theorem Paired.step (h : Paired strict lenient) (type : Elementary) :
    Paired (strict.step type).2 (lenient.step type).2 where
  isStrict := h.isStrict
  isLenient := h.isLenient
  source := by simp only [Reader.step, h.source]
  consumed := by simp only [Reader.step, h.source, h.consumed]
  exhausted := by simp only [Reader.step, h.source, h.exhausted]

/-- Whether an operation reads a run rather than a single unit. -/
def Operation.isRun {σ : Type} : Operation σ → Bool
  | .readUnits _ _ => true
  | .readUnit _ | .takeFaults | .change _ => false

/-- **One operation.** Whatever a single unit comes to, it leaves a pair behind. -/
theorem Paired.perform (h : Paired strict lenient) {operation : Operation σ}
    (hone : operation.isRun = false) :
    Paired (strict.perform operation).reader (lenient.perform operation).reader := by
  induction operation using Operation.casesByTag with
  | readUnit type =>
      rw [perform_readUnit_tag, perform_readUnit_tag]
      exact h.step type
  | refuseUnit tag htag =>
      rw [perform_readUnit_unsupported htag, perform_readUnit_unsupported htag]
      exact h
  | readUnits | refuseUnits => cases hone
  | takeFaults => exact { h with }
  | change edit =>
      have hsource : edit strict.source = edit lenient.source := congrArg edit h.source
      exact { h with source := hsource }

/-- **Any session of single units.** -/
theorem Paired.after (h : Paired strict lenient) (operations : List (Operation σ))
    (hone : ∀ operation ∈ operations, operation.isRun = false) :
    Paired (strict.after operations) (lenient.after operations) := by
  induction operations generalizing strict lenient with
  | nil => exact h
  | cons operation operations ih =>
      obtain ⟨hnow, hlater⟩ := List.forall_mem_cons.mp hone
      exact ih (h.perform hnow) hlater

/-- What a strict and a lenient reader answer to the same unit. -/
structure UnitAgreement (tag : Tag) (lenient : Reader σ) (hard soft : Performed σ) : Prop where
  /-- The strict reader hands out a value exactly if the lenient one does, without a fault. -/
  value (value : Value) :
    hard.response = .value value ↔ soft.response = .value value ∧ soft.faults = []
  /-- The strict reader answers a fault exactly if the lenient one hands out the zero for it, and puts
      it on record or counts it. -/
  fault (fault : Fault) :
    hard.response = .error (.fault fault) ↔
      soft.response = .value (.zero fault.type) ∧ fault.tag = tag ∧ soft.faults = [fault]
        ∧ soft.reader.record = lenient.record.add lenient.settings.capacity fault
  /-- Both refuse a tag or none does. -/
  unsupported (other : Tag) :
    hard.response = .error (.unsupported other) ↔ soft.response = .error (.unsupported other)

/-- **One unit.** -/
theorem Paired.readUnit (h : Paired strict lenient) (tag : Tag) :
    UnitAgreement tag lenient (strict.perform (.readUnit tag)) (lenient.perform (.readUnit tag)) := by
  generalize hhard : strict.perform (.readUnit tag) = hard
  generalize hsoft : lenient.perform (.readUnit tag) = soft
  cases htag : tag.elementary? with
  | none =>
      rw [perform_readUnit_unsupported htag] at hhard hsoft
      subst hhard hsoft
      exact ⟨by simp, by simp, by simp⟩
  | some type =>
      obtain rfl := Tag.elementary?_eq_some_iff.mp htag
      rw [perform_readUnit_tag, h.unit_step, Settings.surfaced?_of_strict h.isStrict] at hhard
      rw [perform_readUnit_tag, Settings.surfaced?_of_lenient h.isLenient] at hsoft
      cases hunit : (lenient.step type).1 with
      | clean value =>
          have hanswer : hard.response = .value value := by rw [← hhard, hunit]; rfl
          have hvalue : soft.response = .value value := by rw [← hsoft, hunit]; rfl
          have hfaults : soft.faults = [] := by rw [← hsoft, hunit]; rfl
          exact ⟨by simp [hanswer, hvalue, hfaults], by simp [hanswer, hfaults], by simp [hanswer, hvalue]⟩
      | faulty fault =>
          obtain rfl := type_of_step_faulty hunit
          have hanswer : hard.response = .error (.fault fault) := by rw [← hhard, hunit]; rfl
          have hzero : soft.response = .value (.zero fault.type) := by rw [← hsoft, hunit]; rfl
          have hfaults : soft.faults = [fault] := by rw [← hsoft, hunit]; rfl
          have hrecord : soft.reader.record = lenient.record.add lenient.settings.capacity fault := by
            rw [← hsoft]
            change lenient.record.note lenient.settings (lenient.step fault.type).1 = _
            rw [FaultRecord.note_of_lenient h.isLenient, hunit]
            rfl
          refine ⟨by simp [hanswer, hfaults], fun other => ⟨?_, ?_⟩, by simp [hanswer, hzero]⟩
          · intro hother
            obtain rfl : fault = other := by simpa [hanswer] using hother
            exact ⟨hzero, rfl, hfaults, hrecord⟩
          · rintro ⟨-, -, hother, -⟩
            obtain rfl : fault = other := by simpa [hfaults] using hother
            exact hanswer

/-! ## Runs -/

/-- **A run up to the first fault.** The strict reader decodes the units of the lenient one, all if there
    is no fault among them, and otherwise up to the first. -/
theorem Paired.attempted (h : Paired strict lenient) (type : Elementary) (count : Nat) :
    (strict.attempted type count).findSome? Decoded.fault?
        = (lenient.attempted type count).findSome? Decoded.fault?
      ∧ (Decoded.faults (lenient.attempted type count) = [] →
          strict.attempted type count = lenient.attempted type count
            ∧ Paired (strict.attempts type.tag count).reader (lenient.attempts type.tag count).reader) := by
  induction count generalizing strict lenient with
  | zero => exact ⟨rfl, fun _ => ⟨rfl, h⟩⟩
  | succ count ih =>
      have hstep := h.step type
      have hunit := h.unit_step type
      rw [attempted_succ, attempted_succ, attempts_succ, attempts_succ, hunit, hstep.exhausted]
      rw [Settings.surfaced?_of_strict h.isStrict, Settings.surfaced?_of_lenient h.isLenient]
      cases hmet : (lenient.step type).1 with
      | clean value =>
          -- neither surfaces anything, so both stop at the end of the source or go on
          obtain ⟨hfirst, hclean⟩ := ih hstep
          cases hend : (lenient.step type).2.exhausted with
          | true => simp [Decoded.fault?, hstep]
          | false => simpa [Decoded.fault?, List.findSome?_cons] using ⟨hfirst, hclean⟩
      | faulty fault =>
          -- the strict run is over; the lenient one has this fault in front, however it goes on
          cases hend : (lenient.step type).2.exhausted with
          | true => simp [Decoded.fault?]
          | false => simp [Decoded.fault?, List.findSome?_cons]

/-- What a strict and a lenient reader answer to the same run. -/
structure RunAgreement (tag : Tag) (hard soft : Performed σ) : Prop where
  /-- The strict reader hands out values exactly if the lenient one does, without a fault. -/
  values (values : List Value) :
    hard.response = .values values ↔ soft.response = .values values ∧ soft.faults = []
  /-- A run of a decodable tag is handed out by the strict reader exactly if it has no fault. -/
  clean : tag.isDecodable = true → ((∃ values, hard.response = .values values) ↔ soft.faults = [])
  /-- A run without a fault leaves a pair behind. -/
  paired : soft.faults = [] → Paired hard.reader soft.reader
  /-- Of a run with faults the strict reader answers the first one. -/
  first (fault : Fault) (later : List Fault) :
    soft.faults = fault :: later → hard.response = .error (.fault fault)
  /-- A tag that is not decodable is refused by both. -/
  refused : tag.isDecodable = false →
    hard.response = .error (.unsupported tag) ∧ soft.response = .error (.unsupported tag)

/-- **One run.** -/
theorem Paired.readUnits (h : Paired strict lenient) (tag : Tag) (count : Nat) :
    RunAgreement tag (strict.perform (.readUnits tag count)) (lenient.perform (.readUnits tag count)) := by
  cases htag : tag.elementary? with
  | none =>
      rw [perform_readUnits_unsupported htag, perform_readUnits_unsupported htag]
      exact {
        values := by simp
        clean := by simp [Tag.isDecodable, htag]
        paired := fun _ => h
        first := by simp [Performed.faults]
        refused := fun _ => ⟨rfl, rfl⟩ }
  | some type =>
      obtain rfl := Tag.elementary?_eq_some_iff.mp htag
      obtain ⟨hfirst, hclean⟩ := h.attempted type count
      have hhard := response_of_strict h.isStrict type count
      have hsoft := response_of_lenient h.isLenient type count
      have hmet : (lenient.perform (.readUnits type.tag count)).faults
          = Decoded.faults (lenient.attempted type count) := by
        simp [faults_perform, units]
      rw [hfirst, ← Decoded.head?_faults] at hhard
      cases hfaults : Decoded.faults (lenient.attempted type count) with
      | nil =>
          obtain ⟨hsame, hpaired⟩ := hclean hfaults
          rw [hfaults, hsame] at hhard
          rw [hfaults] at hmet
          exact {
            values := by simp [hhard, hsoft, hmet]
            clean := by simp [hhard, hmet]
            paired := fun _ => by rwa [reader_readUnits_tag, reader_readUnits_tag]
            first := by simp [hmet]
            refused := by simp }
      | cons fault later =>
          rw [hfaults] at hhard hmet
          exact {
            values := by simp [hhard, hmet]
            clean := by simp [hhard, hmet]
            paired := by simp [hmet]
            first := by simp [hhard, hmet]
            refused := by simp }

/-! ## The law -/

/-- **Lock-step.** A strict and a lenient reader that start on the same source share their source, its
    count and its end after every session of single units. From any state that they share they agree on
    every unit and, up to the first fault, on every run. -/
theorem lockstep_law :
    (∀ (source : σ) (capacity capacity' : Nat) (operations : List (Operation σ)),
        (∀ operation ∈ operations, operation.isRun = false) →
          Paired ((start source { strict := true, capacity }).after operations)
            ((start source { strict := false, capacity := capacity' }).after operations))
      ∧ ∀ strict lenient : Reader σ, Paired strict lenient → ∀ tag : Tag,
          UnitAgreement tag lenient (strict.perform (.readUnit tag)) (lenient.perform (.readUnit tag))
            ∧ ∀ count : Nat, RunAgreement tag (strict.perform (.readUnits tag count))
                (lenient.perform (.readUnits tag count)) := by
  constructor
  · intro source capacity capacity' operations hone
    have hstart : Paired (start source { strict := true, capacity })
        (start source { strict := false, capacity := capacity' }) := ⟨rfl, rfl, rfl, rfl, rfl⟩
    exact hstart.after operations hone
  · intro strict lenient h tag
    exact ⟨h.readUnit tag, h.readUnits tag⟩

/-- A source that fails once between its first byte and the two others. Both readers go on behind the
    failure, and a run of three units is handed out by the lenient one only. -/
theorem lockstep_law_of_one_failure :
    let source : Script := [.data [1], .fail ⟨.other "BrokenPipe", "gone"⟩ 1, .data [2, 3]]
    let tag : Tag := (Elementary.number .usint).tag
    let operations : List (Operation Script) := [.readUnit tag, .readUnit tag, .takeFaults]
    let strict := (start source { strict := true }).after operations
    let lenient := (start source {}).after operations
    (∀ operation ∈ operations, operation.isRun = false)
      ∧ Paired strict lenient
      ∧ (lenient.perform (.readUnits tag 3)).response
          = .values [.number .usint 2, .number .usint 3, .number .usint 0]
      ∧ (strict.perform (.readUnits tag 3)).response
          = .error (.fault ⟨.number .usint, .endOfInput⟩) := by
  intro source tag operations strict lenient
  have hone : ∀ operation ∈ operations, operation.isRun = false := by simp [operations, Operation.isRun]
  obtain ⟨hsessions, hanswers⟩ := @lockstep_law Script _
  have hpaired : Paired strict lenient := hsessions source 1024 1024 operations hone
  have hfaults : (lenient.perform (.readUnits tag 3)).faults = [⟨.number .usint, .endOfInput⟩] := by decide
  exact ⟨hone, hpaired, by decide, ((hanswers strict lenient hpaired tag).2 3).first _ [] hfaults⟩

end Reader

end CipUnits
