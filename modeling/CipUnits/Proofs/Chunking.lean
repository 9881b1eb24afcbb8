import CipUnits.Proofs.Filling
import CipUnits.Proofs.Record
import CipUnits.Source.Cursor

/-!
# `CipUnits.Proofs.Chunking` — how the bytes arrive does not matter

A script that delivers all its bytes, in whatever pieces and with whatever interruptions, is as good as
a cursor on the same bytes. Where the pieces end and where the units end need not agree: a request for
`n` bytes takes the first `n` bytes still held, however many steps they are spread over.

## Contents
- `Script.Unbroken` — a script that neither ends early nor fails for good.
- `Fills.of_unbroken` — what the loop of reads makes of such a script.
- `Follows` — a script that holds what a cursor has ahead of it; the two are interchangeable.
- `chunking_law` — every session on the script goes as it does on the cursor.
-/

namespace CipUnits

/-! ## Unbroken scripts -/

namespace Script

/-- Whether a step delivers something, or is passed over. -/
def Step.isUnbroken : Step → Bool
  | .data bytes => !bytes.isEmpty
  | .fail failure _ => failure.kind == .interrupted

/-- A script of which every step delivers something or is passed over. -/
def Unbroken (script : Script) : Prop := ∀ step ∈ script, step.isUnbroken = true

instance (script : Script) : Decidable script.Unbroken :=
  inferInstanceAs (Decidable (∀ step ∈ script, step.isUnbroken = true))

variable {room : Nat} {script rest : Script}

theorem unbroken_cons {step : Step} {steps : Script} :
    Unbroken (step :: steps) ↔ step.isUnbroken = true ∧ Unbroken steps := List.forall_mem_cons

theorem Unbroken.keep {steps : Script} (h : steps.Unbroken) (bytes : List UInt8) :
    (keep bytes steps).Unbroken := by
  unfold Script.keep
  split
  · exact h
  · next hbytes => exact unbroken_cons.mpr ⟨by simpa [Step.isUnbroken] using hbytes, h⟩

theorem Unbroken.failAgain {steps : Script} (h : steps.Unbroken) {failure : Failure}
    (hkind : failure.kind = .interrupted) (times : Nat) : (failAgain failure times steps).Unbroken := by
  unfold Script.failAgain
  split
  · exact h
  · exact unbroken_cons.mpr ⟨by simpa [Step.isUnbroken] using hkind, h⟩

/-- An unbroken script meets a reader with an interruption at worst, and stays unbroken. -/
theorem Unbroken.of_read_error {failure : Failure} (h : script.Unbroken)
    (hread : script.read room = (.error failure, rest)) :
    failure.kind = .interrupted ∧ rest.Unbroken ∧ rest.data = script.data := by
  cases script with
  | nil => simp [read] at hread
  | cons step steps =>
      cases step with
      | data held => simp [read] at hread
      | fail failure times =>
          cases hread
          obtain ⟨hstep, hsteps⟩ := unbroken_cons.mp h
          have hkind : failure.kind = .interrupted := by simpa [Step.isUnbroken] using hstep
          exact ⟨hkind, hsteps.failAgain hkind times, data_failAgain failure times steps⟩

/-- A read that delivers leaves an unbroken script unbroken, and delivers nothing from no bytes only. -/
theorem Unbroken.of_read_ok {bytes : List UInt8} (h : script.Unbroken) (hroom : 0 < room)
    (hread : script.read room = (.ok bytes, rest)) :
    rest.Unbroken ∧ (bytes = [] → script.data = []) := by
  cases script with
  | nil =>
      cases hread
      exact ⟨h, fun _ => rfl⟩
  | cons step steps =>
      cases step with
      | data held =>
          cases hread
          obtain ⟨hstep, hsteps⟩ := unbroken_cons.mp h
          have hheld : held ≠ [] := by simpa [Step.isUnbroken] using hstep
          refine ⟨hsteps.keep _, fun hnone => absurd hnone ?_⟩
          rw [List.take_eq_nil_iff]
          exact not_or.mpr ⟨Nat.ne_of_gt hroom, hheld⟩
      | fail failure times => simp [read] at hread

/-- **The loop over an unbroken script.** It takes the first bytes that the script holds, as many as
    there is room for, and what stops it is the end of the input. -/
theorem Fills.of_unbroken {taken : List UInt8} {why : Option Failure}
    (hfill : Fills room script taken why rest) (h : script.Unbroken) :
    taken = script.data.take room
      ∧ why = (if script.data.length < room then some .endOfInput else none)
      ∧ rest.Unbroken ∧ rest.data = script.data.drop room := by
  induction hfill with
  | full => simp [h]
  | @ended room script rest hroom hread =>
      -- an unbroken script delivers nothing only once it holds nothing
      obtain ⟨hrest, hnone⟩ := h.of_read_ok hroom hread
      have hnothing : script.data = [] := hnone rfl
      have hleft : rest.data = [] := (append_data_read hread).trans hnothing
      refine ⟨?_, ?_, hrest, ?_⟩
      · rw [hnothing, List.take_nil]
      · rw [hnothing, List.length_nil, if_pos hroom]
      · rw [hnothing, hleft, List.drop_nil]
  | @more room script rest last bytes taken why hroom hread _ _ ih =>
      obtain ⟨hrest, -⟩ := h.of_read_ok hroom hread
      obtain ⟨htaken, hwhy, hlast, hleft⟩ := ih hrest
      -- a delivery never runs over the room, so taking and dropping pass it as a whole
      have hfits := length_le_of_read hread
      rw [← append_data_read hread, List.take_append, List.drop_append]
      refine ⟨?_, ?_, hlast, ?_⟩
      · rw [htaken, List.take_of_length_le hfits]
      · rw [hwhy, List.length_append]
        congr 1
        exact propext (by omega)
      · rw [hleft, List.drop_of_length_le hfits, List.nil_append]
  | again hroom hread _ _ ih =>
      obtain ⟨-, hrest, hdata⟩ := h.of_read_error hread
      rw [← hdata]
      exact ih hrest
  | stopped hroom hread hkind => exact absurd (h.of_read_error hread).1 hkind

end Script

/-! ## Cursors -/

namespace Cursor

theorem failure?_gather (n : Nat) (cursor : Cursor) :
    (cursor.gather n).failure? = if cursor.ahead.length < n then some .endOfInput else none := by
  have hlength := congrArg List.length (cursor.toList_extract_position n)
  rw [List.length_take] at hlength
  dsimp only [gather]
  split
  · next hfull =>
      rw [if_neg (by omega)]
      rfl
  · next hcut =>
      rw [if_pos (by omega)]
      rfl

theorem data_rest_gather (n : Nat) (cursor : Cursor) : (cursor.gather n).rest.data = cursor.data := by
  dsimp only [gather]
  split <;> rfl

end Cursor

/-! ## A script beside a cursor -/

/-- An unbroken script holds what a cursor on the given bytes has ahead of it. -/
structure Follows (bytes : List UInt8) (script : Script) (cursor : Cursor) : Prop where
  unbroken : script.Unbroken
  whole : cursor.data = bytes.toArray
  left : script.data = bytes.drop cursor.position

variable {bytes : List UInt8} {script : Script} {cursor : Cursor}

theorem Follows.ahead (h : Follows bytes script cursor) : cursor.ahead = script.data := by
  rw [h.left, Cursor.ahead, h.whole]

/-- A request moves both by as many bytes as there are, up to those asked for. -/
theorem Follows.rest (h : Follows bytes script cursor) (n : Nat) :
    Follows bytes (ByteSource.gather n script).rest (ByteSource.gather n cursor).rest where
  unbroken := ((script.fills_gather n).of_unbroken h.unbroken).2.2.1
  whole := (cursor.data_rest_gather n).trans h.whole
  left := by
    have hscript : (script.gather n).rest.data = script.data.drop n :=
      ((script.fills_gather n).of_unbroken h.unbroken).2.2.2
    have hmove : (cursor.gather n).rest.position = cursor.position + min n script.data.length := by
      rw [cursor.position_rest_gather, Cursor.bytes_gather, h.ahead, List.length_take]
    change (script.gather n).rest.data = bytes.drop (cursor.gather n).rest.position
    -- the cursor stops at the end of its bytes, behind which there is nothing to drop either
    rw [hscript, hmove, ← List.drop_drop, ← h.left]
    by_cases henough : n ≤ script.data.length
    · rw [Nat.min_eq_left henough]
    · rw [Nat.min_eq_right (by omega), List.drop_length, List.drop_of_length_le (by omega)]

/-- **An unbroken script and a cursor that it follows are interchangeable.** -/
theorem interchangeable_follows (bytes : List UInt8) : Interchangeable (Follows bytes) where
  bytes h n := by
    have hscript := ((Script.fills_gather n _).of_unbroken h.unbroken).1
    exact hscript.trans (h.ahead ▸ (Cursor.bytes_gather n _).symm)
  failure? h n := by
    have hscript := ((Script.fills_gather n _).of_unbroken h.unbroken).2.1
    exact hscript.trans (h.ahead ▸ (Cursor.failure?_gather n _).symm)
  rest h n := h.rest n

namespace Reader

/-! ## Faults of one kind -/

section

variable {σ : Type} [ByteSource σ] {why : Failure}

/-- Where a request can fail in one way only, every unit that faults does so in that way. -/
theorem Reads.failure {reader last : Reader σ} {units : List Decoded}
    (honly : ∀ (n : Nat) (source : σ) (failure : Failure),
      (ByteSource.gather n source).failure? = some failure → failure = why)
    (h : Reads reader units last) : ∀ fault ∈ Decoded.faults units, fault.failure = why := by
  induction h with
  | refl => simp
  | @head reader last units type _ ih =>
      intro fault hfault
      have hunit := type.fault?_decode reader.source
      cases hdecoded : (reader.step type).1 with
      | clean value =>
          rw [hdecoded] at hfault
          exact ih fault hfault
      | faulty met =>
          rw [hdecoded] at hfault
          rcases List.mem_cons.mp hfault with rfl | hlater
          · have hmet : (type.decode reader.source).unit.fault? = some fault := congrArg _ hdecoded
            obtain ⟨failure, hfailure, rfl⟩ := Option.map_eq_some_iff.mp (hunit.symm.trans hmet)
            exact honly _ _ _ hfailure
          · exact ih fault hlater

theorem failure_of_history
    (honly : ∀ (n : Nat) (source : σ) (failure : Failure),
      (ByteSource.gather n source).failure? = some failure → failure = why)
    (reader : Reader σ) (operations : List (Operation σ)) :
    ∀ fault ∈ Decoded.faults (reader.history operations), fault.failure = why := by
  induction operations generalizing reader with
  | nil => simp [history]
  | cons operation operations ih =>
      intro fault hfault
      rw [history, Decoded.faults, List.filterMap_append] at hfault
      rcases List.mem_append.mp hfault with hnow | hlater
      · exact (reads_perform reader operation).failure honly fault hnow
      · exact ih _ fault hlater

end

/-! ## The law -/

/-- **The law of chunking.** A script that delivers the given bytes in any pieces and with any
    interruptions goes through every session as a cursor on these bytes does: after each operation the
    response, the events and the reader are the same, and the script holds what is ahead of the cursor.
    All that a unit of such a session can meet is the end of the input. -/
theorem chunking_law (bytes : List UInt8) (script : Script) (hunbroken : script.Unbroken)
    (hbytes : script.data = bytes) (settings : Settings) (queries : List Query) :
    List.Forall₂ (Performed.Same (Follows bytes))
        ((start script settings).performAll (queries.map Query.operation))
        ((start (Cursor.ofBytes bytes) settings).performAll (queries.map Query.operation))
      ∧ ∀ fault ∈ Decoded.faults ((start script settings).history (queries.map Query.operation)),
          fault.failure = .endOfInput ∧ fault.failure.kind ≠ .interrupted := by
  have hfollows : Follows bytes script (Cursor.ofBytes bytes) := ⟨hunbroken, rfl, hbytes⟩
  have hsame : Same (Follows bytes) (start script settings) (start (Cursor.ofBytes bytes) settings) :=
    { source := hfollows, strict := rfl, consumed := rfl, exhausted := rfl, settings := rfl, record := rfl }
  have hops : List.Forall₂ (Operation.Alike (Follows bytes)) (queries.map Query.operation)
      (queries.map Query.operation) :=
    List.forall₂_map_left_iff.mpr (List.forall₂_map_right_iff.mpr
      (List.forall₂_same.mpr fun query _ => query.alike_operation _))
  have hinter := interchangeable_follows bytes
  refine ⟨hsame.performAll hinter hops, ?_⟩
  -- the same units are decoded on the cursor, where nothing but the end of the input can be met
  rw [hsame.toAlike.history hinter hops]
  intro fault hfault
  have hfailure : fault.failure = .endOfInput := by
    refine failure_of_history ?_ _ _ fault hfault
    intro n cursor failure hmet
    have hcut := (Cursor.failure?_gather n cursor).symm.trans hmet
    by_cases hshort : cursor.ahead.length < n
    · rw [if_pos hshort] at hcut
      exact (Option.some.inj hcut).symm
    · rw [if_neg hshort] at hcut
      cases hcut
  exact ⟨hfailure, by rw [hfailure]; decide⟩

/-- Six bytes in two pieces, neither of which ends with a unit, and three interruptions. The second
    unit is cut off by the end of the input. -/
theorem chunking_law_of_two_pieces :
    let retry : Failure := ⟨.interrupted, "retry"⟩
    let script : Script := [.fail retry 2, .data [1, 2, 3], .data [4, 5, 6], .fail retry 1]
    let queries : List Query := [.readUnits (Elementary.number .dint).tag 3, .takeFaults]
    script.Unbroken ∧ script.data = [1, 2, 3, 4, 5, 6]
      ∧ List.Forall₂ (Performed.Same (Follows [1, 2, 3, 4, 5, 6]))
          ((start script {}).performAll (queries.map Query.operation))
          ((start (Cursor.ofBytes [1, 2, 3, 4, 5, 6]) {}).performAll (queries.map Query.operation))
      ∧ (Decoded.faults ((start script {}).history (queries.map Query.operation))).map (·.failure)
          = [.endOfInput] := by
  intro retry script queries
  have hunbroken : script.Unbroken := by decide
  obtain ⟨hsame, -⟩ := chunking_law [1, 2, 3, 4, 5, 6] script hunbroken rfl {} queries
  exact ⟨hunbroken, rfl, hsame, by decide⟩

end Reader

end CipUnits
