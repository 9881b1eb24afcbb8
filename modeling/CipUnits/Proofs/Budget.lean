import CipUnits.Proofs.Ending
import CipUnits.Proofs.Splitting
import CipUnits.Proofs.Stopping

/-!
# `CipUnits.Proofs.Budget` — how many units a script has in it

A run may be asked for more units than anyone could wait for, and a failure does not end it. What ends it
on a script is that the script is finite. Every unit spends something of it: a clean one spends its
bytes, and one that faults spends the failure that it has met, with however many bytes it had by then. An
interruption is passed over and is no one's spending, and the end of the input is what ends the run. So
the whole units in the bytes and the failures still to be met, taken together, say how many units there
can be before the end.

## Contents
- `Script.failures` and `Script.budget`; `Stops.spends`, what a request takes of them.
- `Elementary.budget_decode` — a unit that does not meet the end; `budget_attempts`, a run that goes on.
- `bounded_law` — the length of a run, and that a larger count changes nothing.
-/

namespace CipUnits

namespace Script

variable {n : Nat} {script rest : Script} {taken : List UInt8} {why : Option Failure}

/-! ## Spending -/

/-- How often a step stops a request by a failure. An interruption stops none, and any other failure is met
    at least once. -/
def Step.failures : Step → Nat
  | .data _ => 0
  | .fail failure times => if failure.kind = .interrupted then 0 else max times 1

/-- The failures that a script still holds, each as often as it will be met. -/
def failures (script : Script) : Nat := (script.map Step.failures).sum

@[simp] theorem failures_cons (step : Step) (steps : Script) :
    failures (step :: steps) = step.failures + failures steps := by
  simp [failures]

@[simp] theorem failures_append (first second : Script) :
    failures (first ++ second) = failures first + failures second := by
  simp [failures]

@[simp] theorem failures_keep (bytes : List UInt8) (steps : Script) :
    failures (keep bytes steps) = failures steps := by
  unfold keep
  split
  · rfl
  · simp [Step.failures]

/-- A failure that has been met is met once less from then on. -/
theorem failures_failAgain {failure : Failure} (hkind : failure.kind ≠ .interrupted) (times : Nat)
    (steps : Script) :
    failures (failAgain failure times steps) + 1 = failures (.fail failure times :: steps) := by
  unfold failAgain
  split <;> simp only [failures_cons, Step.failures, if_neg hkind] <;> omega

/-- Steps that a request passes over hold no failure. -/
theorem Passed.failures {passed : Script} (h : Passed n passed) : passed.failures = 0 := by
  induction passed generalizing n with
  | nil => rfl
  | cons step passed ih =>
      obtain ⟨hstep, -, hlater⟩ := passed_cons.mp h
      rw [failures_cons, ih hlater]
      cases step with
      | data held => rfl
      | fail failure times =>
          have hkind : failure.kind = .interrupted := by simpa [Step.isUnbroken] using hstep
          simp [Step.failures, hkind]

/-- **What a request spends**, unless it meets the end of the input: all its bytes and no failure, or one
    failure. -/
theorem Stops.spends (h : Stops n script taken why rest)
    (hend : ∀ failure, why = some failure → failure.kind ≠ .endOfInput) :
    taken.length = n ∧ rest.failures = script.failures ∨ rest.failures + 1 = script.failures := by
  cases h with
  | @filled passed later held hpassed hfull =>
      have hshort := hpassed.short
      refine .inl ⟨?_, ?_⟩
      · rw [List.length_append, List.length_take]
        omega
      · simp [hpassed.failures, Step.failures]
  | playedOut hpassed | ended hpassed => exact absurd rfl (hend _ rfl)
  | @failed passed later failure times hpassed hkind =>
      refine .inr ?_
      rw [failures_failAgain hkind, failures_append, hpassed.failures, Nat.zero_add]

/-- How many units of some width a script has in it before it ends: the whole ones in its bytes, and one
    for each failure. -/
def budget (width : Nat) (script : Script) : Nat := script.data.length / width + script.failures

end Script

/-- **A unit that does not meet the end** is one of those that the script has in it. -/
theorem Elementary.budget_decode (type : Elementary) {script : Script}
    (hend : (type.decode script).unit.metEnd = false) :
    (type.decode script).rest.budget type.width + 1 ≤ script.budget type.width := by
  have hstop := Script.stops_gather type.width_pos script
  have hbytes : (ByteSource.gather type.width script).bytes.length
      + (ByteSource.gather type.width script).rest.data.length = script.data.length := by
    rw [← List.length_append]
    exact congrArg List.length (Script.bytes_append_data_rest type.width script)
  have hgoes : ∀ failure, (ByteSource.gather type.width script).failure? = some failure →
      failure.kind ≠ .endOfInput := by
    intro failure hfailure hkind
    simp [Decoded.metEnd, hfailure, Fault.isShortRead, hkind] at hend
  rw [type.rest_decode]
  unfold Script.budget
  rcases hstop.spends hgoes with ⟨hall, hfailures⟩ | hfailures
  · rw [hfailures, ← hbytes, hall, Nat.add_div_left _ type.width_pos]
    omega
  · have hfewer : (ByteSource.gather type.width script).rest.data.length / type.width
        ≤ script.data.length / type.width := Nat.div_le_div_right (by omega)
    omega

namespace Reader

variable {reader : Reader Script} {type : Elementary}

/-! ## Runs -/

/-- **A run that goes on** has spent one of the units that the script has in it for each unit. -/
theorem budget_attempts {count : Nat} {values : List Value}
    (hanswer : (reader.attempts type.tag count).answer = .ok values)
    (hopen : (reader.attempts type.tag count).reader.exhausted = false) :
    (reader.attempts type.tag count).reader.source.budget type.width + count
      ≤ reader.source.budget type.width := by
  induction count generalizing reader values with
  | zero => exact Nat.le_refl _
  | succ count ih =>
      obtain ⟨hnext, hlast, later, hlater, -⟩ := exists_of_open_succ hanswer hopen
      rw [hlast] at hopen ⊢
      have hrest := ih hlater hopen
      have hend : (type.decode reader.source).unit.metEnd = false := (Bool.or_eq_false_iff.mp hnext).2
      have hunit : (reader.step type).2.source.budget type.width + 1 ≤ reader.source.budget type.width :=
        type.budget_decode hend
      omega

/-- A run for more units than the script has in it is over when it stops, and asking for more changes
    nothing. -/
theorem attempts_of_budget_lt {count : Nat} (hcount : reader.source.budget type.width < count)
    (more : Nat) : reader.attempts type.tag (count + more) = reader.attempts type.tag count := by
  have hpos : 0 < count := Nat.zero_lt_of_lt hcount
  cases hanswer : (reader.attempts type.tag count).answer with
  | error e => exact attempts_of_error hpos hanswer more
  | ok values =>
      cases hended : (reader.attempts type.tag count).reader.exhausted with
      | true => exact attempts_of_ended hpos hanswer hended more
      | false =>
          have hspent := budget_attempts hanswer hended
          omega

/-! ## The law -/

/-- **Runs over a script are bounded.** However many units a lenient reader is asked for, it answers with
    no more values than there are whole units in the bytes of its script and failures in its steps, and
    one more. Any two counts from there on get the same answer and leave the same reader, with the same
    script left, the same bytes consumed, the same faults on record or dropped and the same memory of the
    end. -/
theorem bounded_law (reader : Reader Script) (hlenient : reader.settings.strict = false) (tag : Tag)
    (htag : tag.isDecodable = true) :
    let bound := reader.source.data.length / tag.payloadSize + reader.source.failures + 1
    let done (count : Nat) := reader.perform (.readUnits tag count)
    (∀ count, ∃ values, (done count).response = .values values ∧ values.length ≤ bound)
      ∧ ∀ count, bound ≤ count →
          (done count).response = (done bound).response ∧ (done count).reader = (done bound).reader := by
  obtain ⟨type, rfl⟩ := Tag.isDecodable_iff.mp htag
  rw [type.payloadSize_tag]
  intro bound done
  have hbound : reader.source.budget type.width < bound := Nat.lt_succ_self _
  have hsame : ∀ count, bound ≤ count →
      (done count).response = (done bound).response ∧ (done count).reader = (done bound).reader := by
    intro count hcount
    obtain ⟨more, rfl⟩ := Nat.exists_eq_add_of_le hcount
    simp only [done]
    rw [perform_readUnits_tag, perform_readUnits_tag, attempts_of_budget_lt hbound more]
    cases (reader.attempts type.tag bound).answer <;> exact ⟨rfl, rfl⟩
  refine ⟨?_, hsame⟩
  intro count
  by_cases hcount : bound ≤ count
  · refine ⟨_, (hsame count hcount).1.trans (response_of_lenient hlenient type bound), ?_⟩
    rw [List.length_map]
    exact length_attempted_le type bound reader
  · refine ⟨_, response_of_lenient hlenient type count, ?_⟩
    rw [List.length_map]
    exact (length_attempted_le type count reader).trans (Nat.le_of_not_le hcount)

/-- Three bytes, an interruption inside the first unit and a failure that is met twice: one unit, two
    faults and half a unit make four, and the largest count of a machine word gets no more. -/
theorem bounded_law_of_three_bytes :
    let retry : Failure := ⟨.interrupted, "retry"⟩
    let broken : Failure := ⟨.other "BrokenPipe", "gone"⟩
    let reader : Reader Script :=
      start [.data [1], .fail retry 3, .data [0], .fail broken 2, .data [2]] {}
    let tag : Tag := (Elementary.number .int).tag
    let most := 2 ^ 64 - 1
    reader.settings.strict = false ∧ tag.isDecodable = true
      ∧ reader.source.data.length / tag.payloadSize + reader.source.failures + 1 = 4
      ∧ (reader.perform (.readUnits tag most)).response
          = .values [.number .int 1, .number .int 0, .number .int 0, .number .int 0]
      ∧ (reader.perform (.readUnits tag most)).reader = (reader.perform (.readUnits tag 4)).reader := by
  intro retry broken reader tag most
  have htag : tag.isDecodable = true := by decide
  have hbound : reader.source.data.length / tag.payloadSize + reader.source.failures + 1 = 4 := by decide
  have hlaw := bounded_law reader rfl tag htag
  rw [hbound] at hlaw
  obtain ⟨hresponse, hreader⟩ := hlaw.2 most (by decide)
  have hfour : (reader.perform (.readUnits tag 4)).response
      = .values [.number .int 1, .number .int 0, .number .int 0, .number .int 0] := by
    decide
  exact ⟨rfl, htag, hbound, hresponse.trans hfour, hreader⟩

end Reader

end CipUnits
