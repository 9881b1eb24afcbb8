import CipUnits.Proofs.Events
import CipUnits.Proofs.Stopping

/-!
# `CipUnits.Proofs.Exhaustion` — the memory of the end

A reader remembers whether its source has ever been at its end. Nothing else that it keeps would tell:
a fault may find no room on record, it may have been taken away, and a strict reader puts none on record
at all. So the memory is compared with the history of the reader, in which every unit stands that was
decoded, whatever became of it.

A source is at its end in two ways. It hands over nothing where more is asked for, or it fails and says
itself that this is why. The reader goes by the kind of the failure and does not tell the two apart.

## Contents
- **Units.** `metEnd_decode`, by the failure of the request; `Script.EndsWithin`, by the script.
- **Reading.** `Reads.exhausted`; `exhausted_perform`, one operation; `exhausted_after`, a session.
- `Remembers` and `remembers_perform` — everything about one operation, from any state.
- `exhaustion_law` — every state that a session leads to.
-/

namespace CipUnits

/-! ## Units -/

/-- A fault tells of the end of the input. -/
def Fault.TellsEnd (fault : Fault) : Prop := fault.failure.kind = .endOfInput

instance (fault : Fault) : Decidable fault.TellsEnd :=
  inferInstanceAs (Decidable (fault.failure.kind = .endOfInput))

theorem Fault.isShortRead_iff {fault : Fault} : fault.isShortRead = true ↔ fault.TellsEnd := beq_iff_eq

/-- Among some units is one that met the end if a fault among them tells so. -/
theorem Decoded.any_metEnd_iff {units : List Decoded} :
    units.any Decoded.metEnd = true ↔ ∃ fault ∈ Decoded.faults units, fault.TellsEnd := by
  induction units with
  | nil => simp
  | cons unit units ih =>
      rw [List.any_cons, Bool.or_eq_true, ih]
      cases unit with
      | clean value => simp [metEnd, fault?]
      | faulty fault => simp [metEnd, fault?, Fault.isShortRead_iff]

section

variable {σ : Type} [ByteSource σ]

/-- A unit meets the end exactly if that is the kind of the failure which stopped its request. -/
theorem Elementary.metEnd_decode_iff (type : Elementary) (source : σ) :
    (type.decode source).unit.metEnd = true ↔
      ∃ failure, (ByteSource.gather type.width source).failure? = some failure
        ∧ failure.kind = .endOfInput := by
  have hunit := type.fault?_decode source
  unfold Decoded.metEnd
  rw [hunit]
  cases (ByteSource.gather type.width source).failure? with
  | none => simp
  | some failure => simp [Fault.isShortRead]

end

namespace Script

/-- A script comes to its end within a request for `n` bytes: behind steps that hold too little stands
    nothing, a delivery of no bytes, or a failure that itself tells of the end. -/
inductive EndsWithin (n : Nat) : Script → Prop where
  | playedOut {passed : Script} (hpassed : Passed n passed) : EndsWithin n passed
  | delivered {passed later : Script} (hpassed : Passed n passed) : EndsWithin n (passed ++ .data [] :: later)
  | told {passed later : Script} {failure : Failure} (times : Nat) (hpassed : Passed n passed)
      (hkind : failure.kind = .endOfInput) : EndsWithin n (passed ++ .fail failure times :: later)

/-- A script ends within a request exactly if the request is stopped by a failure that tells so. -/
theorem endsWithin_iff {n : Nat} {script : Script} :
    EndsWithin n script ↔
      ∃ taken failure rest, Stops n script taken (some failure) rest ∧ failure.kind = .endOfInput := by
  constructor
  · intro h
    cases h with
    | playedOut hpassed => exact ⟨_, _, _, .playedOut hpassed, rfl⟩
    | delivered hpassed => exact ⟨_, _, _, .ended hpassed, rfl⟩
    | told times hpassed hkind =>
        exact ⟨_, _, _, .failed times hpassed (by rw [hkind]; decide), hkind⟩
  · rintro ⟨taken, failure, rest, hstop, hkind⟩
    cases hstop with
    | playedOut hpassed => exact .playedOut hpassed
    | ended hpassed => exact .delivered hpassed
    | failed times hpassed _ => exact .told times hpassed hkind

end Script

/-- **A unit meets the end of a script exactly if the script ends within its bytes.** -/
theorem Elementary.metEnd_decode_script (type : Elementary) (script : Script) :
    (type.decode script).unit.metEnd = true ↔ script.EndsWithin type.width := by
  have hstop := Script.stops_gather type.width_pos script
  rw [type.metEnd_decode_iff, Script.endsWithin_iff]
  constructor
  · rintro ⟨failure, hfailure, hkind⟩
    rw [hfailure] at hstop
    exact ⟨_, failure, _, hstop, hkind⟩
  · rintro ⟨taken, failure, rest, hother, hkind⟩
    exact ⟨failure, (hstop.unique hother).2.1, hkind⟩

namespace Reader

variable {σ : Type} [ByteSource σ]

/-! ## Reading -/

/-- Decoding units adds to the memory whether one of them met the end. -/
theorem Reads.exhausted {reader last : Reader σ} {units : List Decoded} (h : Reads reader units last) :
    last.exhausted = (reader.exhausted || units.any Decoded.metEnd) := by
  induction h with
  | refl => simp
  | head type _ ih =>
      rw [ih, List.any_cons, ← Bool.or_assoc]
      rfl

omit [ByteSource σ] in
/-- Neither taking the faults nor changing the source touches the memory. -/
theorem Operation.exhausted_adjust (operation : Operation σ) (reader : Reader σ) :
    (operation.adjust reader).exhausted = reader.exhausted := by
  cases operation <;> rfl

theorem exhausted_perform (reader : Reader σ) (operation : Operation σ) :
    (reader.perform operation).reader.exhausted
      = (reader.exhausted || (reader.units operation).any Decoded.metEnd) := by
  rw [(reads_perform reader operation).exhausted, operation.exhausted_adjust]

/-- **Sessions.** The memory after a session is the one before, and whether a unit of the session met
    the end. -/
theorem exhausted_after (reader : Reader σ) (operations : List (Operation σ)) :
    (reader.after operations).exhausted
      = (reader.exhausted || (reader.history operations).any Decoded.metEnd) := by
  induction operations generalizing reader with
  | nil => simp [history]
  | cons operation operations ih =>
      rw [after_cons, ih, exhausted_perform, history, List.any_append, Bool.or_assoc]

/-- The faults of a session are those that it reports. -/
theorem faults_narrative (reader : Reader σ) (operations : List (Operation σ)) :
    (reader.narrative operations).filterMap Event.fault? = Decoded.faults (reader.history operations) := by
  induction operations generalizing reader with
  | nil => rfl
  | cons operation operations ih =>
      rw [narrative_cons, List.filterMap_append, faults_events_perform, ih, history, Decoded.faults,
        Decoded.faults, Decoded.faults, List.filterMap_append]

/-! ## One operation -/

/-- A fault that is answered is one of those that were met. -/
theorem mem_faults_of_answered {reader : Reader σ} {operation : Operation σ} {fault : Fault}
    (hanswer : (reader.perform operation).response = .error (.fault fault)) :
    fault ∈ Decoded.faults (reader.units operation) := by
  induction operation using Operation.casesByTag with
  | readUnit type =>
      rw [perform_readUnit_tag] at hanswer
      cases hfault : reader.settings.surfaced? (reader.step type).1 with
      | none => simp [hfault] at hanswer
      | some met =>
          obtain rfl : met = fault := by simpa [hfault] using hanswer
          obtain ⟨-, hunit⟩ := Settings.surfaced?_eq_some_iff.mp hfault
          simp [units, hunit]
  | readUnits type count =>
      rw [response_readUnits_tag] at hanswer
      cases hfault : (reader.attempted type count).findSome? reader.settings.surfaced? with
      | none => simp [hfault] at hanswer
      | some met =>
          obtain rfl : met = fault := by simpa [hfault] using hanswer
          obtain ⟨unit, hunit, hmet⟩ := List.exists_of_findSome?_eq_some hfault
          have hunits : reader.units (.readUnits type.tag count) = reader.attempted type count := by
            simp [units]
          rw [hunits]
          obtain ⟨-, rfl⟩ := Settings.surfaced?_eq_some_iff.mp hmet
          exact List.mem_filterMap.mpr ⟨_, hunit, rfl⟩
  | refuseUnit tag htag => rw [perform_readUnit_unsupported htag] at hanswer; cases hanswer
  | refuseUnits tag count htag => rw [perform_readUnits_unsupported htag] at hanswer; cases hanswer
  | takeFaults | change edit => cases hanswer

/-- How an operation of a reader treats the memory of the end. -/
structure Remembers (reader : Reader σ) (operation : Operation σ) (done : Performed σ) : Prop where
  /-- The memory is there if it was before or a fault met on the way tells of the end. -/
  memory : done.reader.exhausted = true ↔
    reader.exhausted = true ∨ ∃ fault ∈ Decoded.faults (reader.units operation), fault.TellsEnd
  /-- Clean units and faults of any other kind leave it as it was. -/
  other : (∀ fault ∈ Decoded.faults (reader.units operation), ¬ fault.TellsEnd) →
    done.reader.exhausted = reader.exhausted
  /-- So does whatever decodes nothing: a refused tag, the taking of the faults, a change of the source. -/
  idle : operation.tag?.any Tag.isDecodable = false → done.reader.exhausted = reader.exhausted
  /-- A fault that is answered instead of put on record is remembered like any other. -/
  answered : ∀ fault, done.response = .error (.fault fault) → fault.TellsEnd → done.reader.exhausted = true

/-- **One operation.** -/
theorem remembers_perform (reader : Reader σ) (operation : Operation σ) :
    Remembers reader operation (reader.perform operation) := by
  have hmemory : (reader.perform operation).reader.exhausted = true ↔
      reader.exhausted = true ∨ ∃ fault ∈ Decoded.faults (reader.units operation), fault.TellsEnd := by
    rw [exhausted_perform, Bool.or_eq_true, Decoded.any_metEnd_iff]
  have hother : (∀ fault ∈ Decoded.faults (reader.units operation), ¬ fault.TellsEnd) →
      (reader.perform operation).reader.exhausted = reader.exhausted := by
    intro hnone
    rw [Bool.eq_iff_iff, hmemory]
    -- without such a fault the memory can only be an old one
    refine or_iff_left ?_
    rintro ⟨fault, hfault, htells⟩
    exact hnone fault hfault htells
  refine { memory := hmemory, other := hother, idle := ?_, answered := ?_ }
  · intro hidle
    refine hother ?_
    rw [units_of_idle hidle]
    exact List.forall_mem_nil _
  · intro fault hanswer htells
    exact hmemory.mpr (.inr ⟨fault, mem_faults_of_answered hanswer, htells⟩)

/-! ## The law -/

/-- **Exhaustion.** In every state that a session leads to, a reader says that its source has ended
    exactly if a unit of the session has faulted with the end of the input, be the fault on record,
    dropped, taken away or answered; the faults of the session are the ones that it reports. From any
    state, no operation sets or clears this memory but by such a fault. A unit faults so if its request
    is stopped by a failure of this kind, and on a script if the script is played out, delivers nothing
    or fails with this kind before the unit has its bytes. -/
theorem exhaustion_law :
    (∀ (source : σ) (settings : Settings) (operations : List (Operation σ)),
        (((start source settings).after operations).exhausted = true ↔
            ∃ fault ∈ Decoded.faults ((start source settings).history operations), fault.TellsEnd)
          ∧ Decoded.faults ((start source settings).history operations)
              = ((start source settings).narrative operations).filterMap Event.fault?)
      ∧ (∀ (reader : Reader σ) (operation : Operation σ),
          Remembers reader operation (reader.perform operation))
      ∧ (∀ (type : Elementary) (reader : Reader σ),
          (∃ fault ∈ Decoded.faults (reader.units (.readUnit type.tag)), fault.TellsEnd) ↔
            ∃ failure, (ByteSource.gather type.width reader.source).failure? = some failure
              ∧ failure.kind = .endOfInput)
      ∧ ∀ (type : Elementary) (reader : Reader Script),
          (∃ fault ∈ Decoded.faults (reader.units (.readUnit type.tag)), fault.TellsEnd) ↔
            reader.source.EndsWithin type.width := by
  have hone : ∀ {τ : Type} [ByteSource τ] (type : Elementary) (reader : Reader τ),
      (∃ fault ∈ Decoded.faults (reader.units (.readUnit type.tag)), fault.TellsEnd) ↔
        (type.decode reader.source).unit.metEnd = true := by
    intro τ _ type reader
    rw [← Decoded.any_metEnd_iff]
    simp [units, step]
  refine ⟨?_, remembers_perform, ?_, ?_⟩
  · intro source settings operations
    constructor
    · rw [exhausted_after, Bool.or_eq_true, Decoded.any_metEnd_iff]
      exact or_iff_right Bool.false_ne_true
    · exact (faults_narrative _ _).symm
  · intro type reader
    rw [hone]
    exact type.metEnd_decode_iff reader.source
  · intro type reader
    rw [hone]
    exact type.metEnd_decode_script reader.source

/-- A strict reader that meets a failure, and then a failure which tells of the end. The second one is
    remembered, although no fault was ever put on record and bytes have been added since. -/
example :
    let broken : Failure := ⟨.other "BrokenPipe", "gone"⟩
    let closed : Failure := ⟨.endOfInput, "closed"⟩
    let first := start ([.fail broken 1, .data [1], .fail closed 1, .data [2, 3]] : Script) { strict := true }
    let tag : Tag := (Elementary.number .int).tag
    (first.after [.readUnit tag, .takeFaults]).exhausted = false
      ∧ (first.after [.readUnit tag, .readUnits tag 2, .readUnit tag, .takeFaults]).exhausted = true := by
  decide

end Reader

end CipUnits
