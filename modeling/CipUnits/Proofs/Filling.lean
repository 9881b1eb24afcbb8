import CipUnits.Source.Script

/-!
# `CipUnits.Proofs.Filling` — a request as a loop of reads

A script knows two ways of being read. One read takes what the next step holds, as far as there is room.
A request goes on until it has all its bytes, and is defined over the steps at once (`Script.gather`).
This file ties the two: a request is the loop that reads until the room is filled, takes a read of no
bytes for the end of the input, reads again after an interruption and stops at any other failure.

## Contents
- `Script.read` — one read; `append_data_read`, it loses no byte.
- `Script.Fills` — the loop, as a relation.
- `fills_gather` — a request comes to what the loop comes to; `Fills.unique`, which is nothing else.
-/

namespace CipUnits.Script

/-! ## One read -/

/-- One read with room for some bytes: what it delivers or the failure it meets, and what is left. -/
def read (room : Nat) : Script → Except Failure (List UInt8) × Script
  | [] => (.ok [], [])
  | .data bytes :: steps => (.ok (bytes.take room), keep (bytes.drop room) steps)
  | .fail failure times :: steps => (.error failure, failAgain failure times steps)

theorem length_le_of_read {room : Nat} {script rest : Script} {bytes : List UInt8}
    (h : script.read room = (.ok bytes, rest)) : bytes.length ≤ room := by
  cases script with
  | nil =>
      obtain ⟨rfl, -⟩ : [] = bytes ∧ _ := by simpa [read] using h
      exact Nat.zero_le _
  | cons step steps =>
      cases step with
      | data held =>
          obtain ⟨rfl, -⟩ : held.take room = bytes ∧ _ := by simpa [read] using h
          exact List.length_take_le room held
      | fail failure times => simp [read] at h

/-- What a read delivers stood at the front of the script. -/
theorem append_data_read {room : Nat} {script rest : Script} {bytes : List UInt8}
    (h : script.read room = (.ok bytes, rest)) : bytes ++ rest.data = script.data := by
  cases script with
  | nil =>
      obtain ⟨rfl, rfl⟩ : [] = bytes ∧ [] = rest := by simpa [read] using h
      rfl
  | cons step steps =>
      cases step with
      | data held =>
          obtain ⟨rfl, rfl⟩ : held.take room = bytes ∧ keep (held.drop room) steps = rest := by
            simpa [read] using h
          rw [data_keep, ← List.append_assoc, List.take_append_drop, data]
      | fail failure times => simp [read] at h

/-! ## The loop -/

/-- The loop with room for some bytes: the bytes it takes, the failure that stops it and what is left. -/
inductive Fills : (room : Nat) → Script → List UInt8 → Option Failure → Script → Prop where
  | full {script : Script} : Fills 0 script [] none script
  | ended {room : Nat} {script rest : Script} (hroom : 0 < room)
      (hread : script.read room = (.ok [], rest)) : Fills room script [] (some .endOfInput) rest
  | more {room : Nat} {script rest last : Script} {bytes taken : List UInt8} {why : Option Failure}
      (hroom : 0 < room) (hread : script.read room = (.ok bytes, rest)) (hbytes : bytes ≠ [])
      (hfill : Fills (room - bytes.length) rest taken why last) :
      Fills room script (bytes ++ taken) why last
  | again {room : Nat} {script rest last : Script} {failure : Failure} {taken : List UInt8}
      {why : Option Failure} (hroom : 0 < room) (hread : script.read room = (.error failure, rest))
      (hkind : failure.kind = .interrupted) (hfill : Fills room rest taken why last) :
      Fills room script taken why last
  | stopped {room : Nat} {script rest : Script} {failure : Failure} (hroom : 0 < room)
      (hread : script.read room = (.error failure, rest)) (hkind : failure.kind ≠ .interrupted) :
      Fills room script [] (some failure) rest

/-- The loop reads again for as often as a step interrupts it. -/
theorem Fills.of_interruptions {room : Nat} {steps last : Script} {failure : Failure}
    {taken : List UInt8} {why : Option Failure} (hroom : 0 < room)
    (hkind : failure.kind = .interrupted) (hfill : Fills room steps taken why last) (times : Nat) :
    Fills room (.fail failure times :: steps) taken why last := by
  induction times with
  | zero => exact .again hroom rfl hkind hfill
  | succ times ih =>
      cases times with
      | zero => exact .again hroom rfl hkind hfill
      | succ times => exact .again hroom rfl hkind ih

/-- **A request is the loop of reads.** -/
theorem fills_gather (n : Nat) (script : Script) :
    Fills n script (gather n script).bytes (gather n script).failure? (gather n script).rest := by
  fun_induction gather n script with
  | case1 => exact .full
  | case2 n h => exact .ended (by omega) rfl
  | case3 => exact .full
  | case4 n steps h =>
      have hread : read n (.data [] :: steps) = (.ok [], steps) := by simp [read, keep]
      exact .ended (by omega) hread
  | case5 n steps h b bs taken full =>
      -- the step fills the room, and the loop finds it full at the next round
      have hread : read n (.data (b :: bs) :: steps) = (.ok taken, keep ((b :: bs).drop n) steps) := rfl
      have htaken : taken ≠ [] := by
        intro hnil
        rw [hnil] at full
        exact h full.symm
      have hfill := Fills.more (by omega) hread htaken (by rw [full, Nat.sub_self]; exact .full)
      simpa [Gathered.bytes, Gathered.failure?, Gathered.rest] using hfill
  | case6 n steps h b bs taken full ih =>
      -- the step falls short of the room, so all of it was taken
      have short : (b :: bs).length ≤ n := by
        rw [List.length_take] at full
        omega
      have all : taken = b :: bs := List.take_of_length_le short
      have hread : read n (.data (b :: bs) :: steps) = (.ok taken, steps) := by
        simp only [read, List.drop_of_length_le short]
        rfl
      simpa using Fills.more (by omega) hread (by simp [all]) ih
  | case7 n steps h failure times hkind ih => exact ih.of_interruptions (by omega) hkind times
  | case8 n steps h failure times hkind => exact .stopped (by omega) rfl hkind

/-- The loop comes to one end only: a read has one outcome, and each outcome one way to go on. -/
theorem Fills.unique {room : Nat} {script rest rest' : Script} {taken taken' : List UInt8}
    {why why' : Option Failure} (h : Fills room script taken why rest)
    (h' : Fills room script taken' why' rest') : taken = taken' ∧ why = why' ∧ rest = rest' := by
  induction h generalizing taken' why' rest' with
  | full =>
      cases h' with
      | full => exact ⟨rfl, rfl, rfl⟩
      | ended hroom | more hroom | again hroom | stopped hroom => exact absurd hroom (Nat.lt_irrefl 0)
  | ended hroom hread =>
      cases h' with
      | full => exact absurd hroom (Nat.lt_irrefl 0)
      | ended _ hread' =>
          cases hread.symm.trans hread'
          exact ⟨rfl, rfl, rfl⟩
      | more _ hread' hbytes =>
          cases hread.symm.trans hread'
          exact absurd rfl hbytes
      | again _ hread' | stopped _ hread' => cases hread.symm.trans hread'
  | more hroom hread hbytes hfill ih =>
      cases h' with
      | full => exact absurd hroom (Nat.lt_irrefl 0)
      | ended _ hread' =>
          cases hread.symm.trans hread'
          exact absurd rfl hbytes
      | more _ hread' _ hfill' =>
          cases hread.symm.trans hread'
          obtain ⟨rfl, rfl, rfl⟩ := ih hfill'
          exact ⟨rfl, rfl, rfl⟩
      | again _ hread' | stopped _ hread' => cases hread.symm.trans hread'
  | again hroom hread hkind hfill ih =>
      cases h' with
      | full => exact absurd hroom (Nat.lt_irrefl 0)
      | ended _ hread' | more _ hread' => cases hread.symm.trans hread'
      | again _ hread' _ hfill' =>
          cases hread.symm.trans hread'
          exact ih hfill'
      | stopped _ hread' hkind' =>
          cases hread.symm.trans hread'
          exact absurd hkind hkind'
  | stopped hroom hread hkind =>
      cases h' with
      | full => exact absurd hroom (Nat.lt_irrefl 0)
      | ended _ hread' | more _ hread' => cases hread.symm.trans hread'
      | again _ hread' hkind' =>
          cases hread.symm.trans hread'
          exact absurd hkind' hkind
      | stopped _ hread' _ =>
          cases hread.symm.trans hread'
          exact ⟨rfl, rfl, rfl⟩

end CipUnits.Script
