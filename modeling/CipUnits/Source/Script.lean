import CipUnits.Source.Basic

/-!
# `CipUnits.Source.Script` — a source that plays prepared steps

A script states what each attempt to read meets: some bytes, the end of the input, or a failure. It
shows how a reader fares with a slow or failing connection. A request goes on through interruptions
and short deliveries until it is full or something else stops it.

## Contents
- `Script.Step`, `Script` and the bytes a script still holds, `Script.data`.
- `Script.gather` — the request.
-/

namespace CipUnits

/-- What one attempt to read meets. -/
inductive Script.Step where
  /-- Bytes, of which an attempt takes what it needs; no bytes are an end of input, once. -/
  | data (bytes : List UInt8)
  /-- A failure, a number of times. -/
  | fail (failure : Failure) (times : Nat)
deriving DecidableEq, Repr

/-- The steps still to be played. A script that is played out is at its end of input for good. -/
abbrev Script := List Script.Step

namespace Script

/-- The bytes that a script still holds. -/
def data : Script → List UInt8
  | [] => []
  | .data bytes :: steps => bytes ++ data steps
  | .fail _ _ :: steps => data steps

/-- A step of bytes in front of a script, unless there are none. -/
def keep (bytes : List UInt8) (steps : Script) : Script :=
  if bytes.isEmpty then steps else .data bytes :: steps

/-- A failure in front of a script, once less than before. -/
def failAgain (failure : Failure) (times : Nat) (steps : Script) : Script :=
  if times ≤ 1 then steps else .fail failure (times - 1) :: steps

/-- Takes `n` bytes over as many steps as that needs. Interruptions are passed over; an empty step, the
    end of the script or any other failure stops the request. -/
def gather (n : Nat) : Script → Gathered Script n
  | [] => if h : n = 0 then .full ⟨[], h.symm⟩ [] else .cut [] .endOfInput []
  | step :: steps =>
      if h : n = 0 then .full ⟨[], h.symm⟩ (step :: steps)
      else match step with
        | .data [] => .cut [] .endOfInput steps
        | .data (b :: bs) =>
            let taken := (b :: bs).take n
            if full : taken.length = n then .full ⟨taken, full⟩ (keep ((b :: bs).drop n) steps)
            else (gather (n - taken.length) steps).after taken (List.length_take_le n _)
        | .fail failure times =>
            if failure.kind = .interrupted then gather n steps
            else .cut [] failure (failAgain failure times steps)

instance : ByteSource Script := ⟨gather⟩

/-! ## Conservation of bytes -/

@[simp] theorem data_keep (bytes : List UInt8) (steps : Script) :
    data (keep bytes steps) = bytes ++ data steps := by
  unfold keep
  split
  · simp_all
  · rfl

@[simp] theorem data_failAgain (failure : Failure) (times : Nat) (steps : Script) :
    data (failAgain failure times steps) = data steps := by
  unfold failAgain
  split <;> rfl

@[simp] theorem data_append (first second : Script) : data (first ++ second) = data first ++ data second := by
  induction first with
  | nil => rfl
  | cons step steps ih => cases step <;> simp [data, ih]

/-- A request takes bytes from the front of what the script holds and loses none. -/
theorem bytes_append_data_rest (n : Nat) (script : Script) :
    (gather n script).bytes ++ data (gather n script).rest = data script := by
  fun_induction gather n script with
  | case1 => rfl
  | case2 => rfl
  | case3 => rfl
  | case4 => simp [Gathered.bytes, Gathered.rest, data]
  | case5 n steps h0 b bs taken full =>
      simp only [Gathered.bytes, Gathered.rest, data_keep, data]
      rw [← List.append_assoc, List.take_append_drop]
  | case6 n steps h0 b bs taken full ih =>
      have short : (b :: bs).length ≤ n := by
        rw [List.length_take] at full
        omega
      have all : taken = b :: bs := List.take_of_length_le short
      simp only [Gathered.bytes_after, Gathered.rest_after, data, List.append_assoc, ih, all]
  | case7 n steps failure times h0 hi ih => simpa [data] using ih
  | case8 n steps failure times h0 hi => simp [Gathered.bytes, Gathered.rest, data]

end Script

end CipUnits
