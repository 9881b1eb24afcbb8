import CipUnits.Proofs.Ahead
import CipUnits.Proofs.Chunking

/-!
# `CipUnits.Proofs.Stopping` — where a request stops

The loop of reads (`Script.Fills`) says how a request comes about, one read at a time. What it comes to
can be told by looking at the script alone. The request passes over steps that together hold too little,
and stops at the first place where it has all its bytes, or the input ends, or a failure is met that is
not an interruption. The script is cut in two there: in front of this place all bytes are taken and all
interruptions are gone, and behind it nothing has been touched.

## Contents
- `Script.Passed` — steps that a request passes over; `Fills.behind`, the loop behind them.
- `Script.Stops` — the four places at which a request stops, with what is left of the script.
- `exists_stops` and `Stops.unique` — every script has one such place, and only one.
- `stops_gather` — the request stops there.
- `outcome_law` — what decoding a unit comes to, for every decodable tag and every script.
-/

namespace CipUnits

namespace Script

variable {n : Nat} {passed script steps later rest rest' : Script} {taken taken' : List UInt8}
  {why why' : Option Failure}

/-! ## Steps passed over -/

/-- Steps that a request for `n` bytes passes over: all of them deliver or interrupt, and together they
    hold too little. -/
structure Passed (n : Nat) (steps : Script) : Prop where
  unbroken : steps.Unbroken
  short : steps.data.length < n

theorem Passed.nil (hroom : 0 < n) : Passed n [] := ⟨List.forall_mem_nil _, hroom⟩

theorem Passed.room_pos (h : Passed n passed) : 0 < n - passed.data.length := Nat.sub_pos_of_lt h.short

/-- The bytes that a step delivers. -/
def Step.bytes : Step → List UInt8
  | .data held => held
  | .fail _ _ => []

theorem data_cons (step : Step) (steps : Script) : data (step :: steps) = step.bytes ++ steps.data := by
  cases step <;> rfl

theorem passed_cons {step : Step} :
    Passed n (step :: passed) ↔
      step.isUnbroken = true ∧ step.bytes.length < n ∧ Passed (n - step.bytes.length) passed := by
  have hlength : (data (step :: passed)).length = step.bytes.length + passed.data.length := by
    rw [data_cons, List.length_append]
  constructor
  · rintro ⟨hunbroken, hshort⟩
    obtain ⟨hstep, hlater⟩ := unbroken_cons.mp hunbroken
    exact ⟨hstep, by omega, hlater, by omega⟩
  · rintro ⟨hstep, hfits, hlater, hshort⟩
    exact ⟨unbroken_cons.mpr ⟨hstep, hlater⟩, by omega⟩

/-- **The loop goes on behind the steps that it passes over**, with their bytes in hand. -/
theorem Fills.behind (hpassed : Passed n passed)
    (hfill : Fills (n - passed.data.length) steps taken why rest) :
    Fills n (passed ++ steps) (passed.data ++ taken) why rest := by
  -- each step narrows the room for those behind it by what it delivers
  induction passed generalizing n with
  | nil => exact hfill
  | cons step passed ih =>
      obtain ⟨hstep, hfits, hlater⟩ := passed_cons.mp hpassed
      rw [data_cons, List.length_append, ← Nat.sub_sub] at hfill
      have hmore := ih hlater hfill
      rw [data_cons, List.append_assoc]
      cases step with
      | data held =>
          have hread : read n (.data held :: (passed ++ steps)) = (.ok held, passed ++ steps) := by
            have htake : held.take n = held := List.take_of_length_le (Nat.le_of_lt hfits)
            have hdrop : held.drop n = [] := List.drop_of_length_le (Nat.le_of_lt hfits)
            rw [read, htake, hdrop]
            rfl
          have hheld : held ≠ [] := by simpa [Step.isUnbroken] using hstep
          exact .more (Nat.zero_lt_of_lt hfits) hread hheld hmore
      | fail failure times =>
          have hkind : failure.kind = .interrupted := by simpa [Step.isUnbroken] using hstep
          exact hmore.of_interruptions hfits hkind times

/-! ## Stops -/

/-- Where a request for `n` bytes stops: the bytes that it has taken, the failure that it has met and what
    is left of the script. -/
inductive Stops (n : Nat) : Script → List UInt8 → Option Failure → Script → Prop where
  /-- A delivery has the bytes that are still missing. What it has beyond them is kept. -/
  | filled {passed later : Script} {held : List UInt8} (hpassed : Passed n passed)
      (hfull : n ≤ passed.data.length + held.length) :
      Stops n (passed ++ .data held :: later) (passed.data ++ held.take (n - passed.data.length)) none
        (keep (held.drop (n - passed.data.length)) later)
  /-- The script has been played. -/
  | playedOut {passed : Script} (hpassed : Passed n passed) :
      Stops n passed passed.data (some .endOfInput) []
  /-- A delivery of no bytes is the end of the input, and is itself gone. -/
  | ended {passed later : Script} (hpassed : Passed n passed) :
      Stops n (passed ++ .data [] :: later) passed.data (some .endOfInput) later
  /-- A failure that is no interruption is met, once. -/
  | failed {passed later : Script} {failure : Failure} (times : Nat) (hpassed : Passed n passed)
      (hkind : failure.kind ≠ .interrupted) :
      Stops n (passed ++ .fail failure times :: later) passed.data (some failure)
        (failAgain failure times later)

theorem Stops.room_pos (h : Stops n script taken why rest) : 0 < n := by
  cases h with
  | filled hpassed | playedOut hpassed | ended hpassed | failed _ hpassed =>
      exact Nat.zero_lt_of_lt hpassed.short

/-- A request that is stopped by a failure lacks bytes. -/
theorem Stops.length_lt {failure : Failure} (h : Stops n script taken (some failure) rest) :
    taken.length < n := by
  cases h with
  | playedOut hpassed | ended hpassed | failed _ hpassed => exact hpassed.short

/-- A step that is passed over may stand in front. -/
theorem Stops.cons {step : Step} (hstep : step.isUnbroken = true) (hfits : step.bytes.length < n)
    (h : Stops (n - step.bytes.length) script taken why rest) :
    Stops n (step :: script) (step.bytes ++ taken) why rest := by
  have hfront : ∀ {passed : Script}, Passed (n - step.bytes.length) passed → Passed n (step :: passed) :=
    fun hpassed => passed_cons.mpr ⟨hstep, hfits, hpassed⟩
  cases h with
  | @filled passed later held hpassed hfull =>
      have hlength : (data (step :: passed)).length = step.bytes.length + passed.data.length := by
        rw [data_cons, List.length_append]
      have hmissing : n - (data (step :: passed)).length = n - step.bytes.length - passed.data.length := by
        omega
      have hstop : Stops n ((step :: passed) ++ .data held :: later) _ _ _ :=
        .filled (hfront hpassed) (by omega)
      rw [hmissing, data_cons, List.append_assoc] at hstop
      exact hstop
  | playedOut hpassed => exact data_cons step script ▸ .playedOut (hfront hpassed)
  | @ended passed _ hpassed => exact data_cons step passed ▸ .ended (hfront hpassed)
  | @failed passed later failure times hpassed hkind =>
      exact data_cons step passed ▸ .failed times (hfront hpassed) hkind

/-- **Every request stops somewhere.** -/
theorem exists_stops (hroom : 0 < n) (script : Script) :
    ∃ taken why rest, Stops n script taken why rest := by
  -- a step either stops the request or is passed over, with less room for the steps behind it
  induction script generalizing n with
  | nil => exact ⟨_, _, _, .playedOut (.nil hroom)⟩
  | cons step script ih =>
      cases step with
      | data held =>
          by_cases hheld : held = []
          · subst hheld
            exact ⟨_, _, _, .ended (.nil hroom)⟩
          · by_cases hfits : held.length < n
            · obtain ⟨taken, why, rest, hstop⟩ := ih (Nat.sub_pos_of_lt hfits)
              exact ⟨_, _, _, hstop.cons (by simpa [Step.isUnbroken] using hheld) hfits⟩
            · have hfull : n ≤ (data []).length + held.length := by
                rw [data, List.length_nil]
                omega
              exact ⟨_, _, _, .filled (.nil hroom) hfull⟩
      | fail failure times =>
          by_cases hkind : failure.kind = .interrupted
          · obtain ⟨taken, why, rest, hstop⟩ := ih hroom
            exact ⟨_, _, _, hstop.cons (by simpa [Step.isUnbroken] using hkind) hroom⟩
          · exact ⟨_, _, _, .failed times (.nil hroom) hkind⟩

/-- The loop of reads stops at the same place. -/
theorem Stops.fills (h : Stops n script taken why rest) : Fills n script taken why rest := by
  cases h with
  | @filled passed later held hpassed hfull =>
      -- the last delivery is the only one that is cut, and it fills the room
      have hroom := hpassed.room_pos
      have hlength : (held.take (n - passed.data.length)).length = n - passed.data.length :=
        List.length_take_of_le (by omega)
      have hsome : held.take (n - passed.data.length) ≠ [] := by
        intro hnil
        rw [hnil, List.length_nil] at hlength
        omega
      have hlast : Fills (n - passed.data.length) (.data held :: later)
          (held.take (n - passed.data.length) ++ []) none
          (keep (held.drop (n - passed.data.length)) later) :=
        .more hroom rfl hsome (by rw [hlength, Nat.sub_self]; exact .full)
      rw [List.append_nil] at hlast
      exact hlast.behind hpassed
  | playedOut hpassed =>
      have hlast : Fills (n - script.data.length) [] [] (some .endOfInput) [] :=
        .ended hpassed.room_pos rfl
      simpa using hlast.behind hpassed
  | @ended passed _ hpassed =>
      have hlast : Fills (n - passed.data.length) (.data [] :: rest) [] (some .endOfInput) rest :=
        .ended hpassed.room_pos (by simp [read, keep])
      simpa using hlast.behind hpassed
  | @failed passed later failure times hpassed hkind =>
      have hlast : Fills (n - passed.data.length) (.fail failure times :: later) [] (some failure)
          (failAgain failure times later) := .stopped hpassed.room_pos rfl hkind
      simpa using hlast.behind hpassed

/-- There is one place only at which a request stops. -/
theorem Stops.unique (h : Stops n script taken why rest) (h' : Stops n script taken' why' rest') :
    taken = taken' ∧ why = why' ∧ rest = rest' := h.fills.unique h'.fills

/-- **A request stops where the script says.** -/
theorem stops_gather (hroom : 0 < n) (script : Script) :
    Stops n script (ByteSource.gather n script).bytes (ByteSource.gather n script).failure?
      (ByteSource.gather n script).rest := by
  obtain ⟨taken, why, rest, hstop⟩ := exists_stops hroom script
  obtain ⟨rfl, rfl, rfl⟩ := hstop.fills.unique (fills_gather n script)
  exact hstop

end Script

/-! ## Decoding -/

/-- What decoding a unit of a tag comes to, told by where its request has stopped. -/
structure ComesTo (tag : Tag) (taken : List UInt8) (why : Option Failure) (rest : Script)
    (decoding : Decoding Script) : Prop where
  used : decoding.used = taken.length
  rest : decoding.rest = rest
  /-- With all its bytes the unit is clean, and its value is that of these bytes alone. -/
  whole : why = none → taken.length = tag.payloadSize ∧ ∃ value : Value,
    decoding.unit = .clean value ∧ value.tag = tag ∧ value.SpelledBy taken
      ∧ decode tag taken = .ok ⟨.clean value, tag.payloadSize, []⟩
  /-- Cut off by a failure, it has the zero of its tag and a fault that names tag, native type and size
      of the unit and has kind and message of the failure. -/
  cut : ∀ failure, why = some failure → taken.length < tag.payloadSize ∧ ∃ fault : Fault,
    decoding.unit = .faulty fault ∧ tag.elementary?.map Value.zero = some decoding.unit.value
      ∧ fault.tag = tag ∧ fault.expected = tag.payloadSize
      ∧ fault.native = (if tag = Elementary.string.tag then "[u8; 86]" else decoding.unit.value.kind.name)
      ∧ fault.failure.kind = failure.kind ∧ fault.failure.message = failure.message

namespace Elementary

variable (type : Elementary) {taken : List UInt8} {rest : Script}

/-- A unit of which all bytes are gathered is what these bytes are decoded to by themselves. -/
theorem comesTo_of_full (block : Block type.width) :
    ComesTo type.tag block.val none rest ⟨.clean (.ofBlock type block), block.val.length, rest⟩ where
  used := rfl
  rest := rfl
  whole := by
    intro _
    have hlength : block.val.length = type.tag.payloadSize := by rw [type.payloadSize_tag, block.property]
    have htag : (Value.ofBlock type block).tag = type.tag := congrArg tag (Value.type_ofBlock type block)
    have hall : block.val.take type.width = block.val := List.take_of_length_le (Nat.le_of_eq block.property)
    have hnone : block.val.drop type.width = [] := List.drop_of_length_le (Nat.le_of_eq block.property)
    refine ⟨hlength, .ofBlock type block, rfl, htag, Value.spelledBy_ofBlock type block, ?_⟩
    rw [decode_tag, type.decode_of_length_le (Nat.le_of_eq block.property.symm), type.payloadSize_tag]
    simp only [hall, hnone]
  cut := by
    intro failure hnone
    cases hnone

/-- A unit that is cut off has the zero of its tag, and its fault says what stopped it. -/
theorem comesTo_of_cut (hshort : taken.length < type.width) (why : Failure) :
    ComesTo type.tag taken (some why) rest ⟨.faulty ⟨type, why⟩, taken.length, rest⟩ where
  used := rfl
  rest := rfl
  whole := by
    intro hnone
    cases hnone
  cut := by
    intro failure hfailure
    obtain rfl := Option.some.inj hfailure
    have hzero : type.tag.elementary?.map Value.zero = some (Value.zero type) := by
      rw [type.elementary?_tag, Option.map_some]
    have hnative : Fault.native ⟨type, why⟩
        = if type.tag = Elementary.string.tag then "[u8; 86]" else (Value.zero type).kind.name := by
      cases type with
      | bool | string => rfl
      | number type => cases type <;> rfl
    exact ⟨by rwa [type.payloadSize_tag], ⟨type, why⟩, rfl, hzero, rfl, type.payloadSize_tag.symm, hnative,
      rfl, rfl⟩

/-- **Decoding a unit comes to what the place says at which its request stops.** -/
theorem comesTo_decode {script : Script} {why : Option Failure}
    (hstop : Script.Stops type.width script taken why rest) :
    ComesTo type.tag taken why rest (type.decode script) := by
  -- the place is the one at which the request itself stops, since there is no other
  obtain ⟨rfl, rfl, rfl⟩ := hstop.unique (Script.stops_gather hstop.room_pos script)
  unfold decode
  cases hgather : ByteSource.gather type.width script with
  | full block left => exact type.comesTo_of_full block
  | cut got failure left =>
      rw [hgather] at hstop
      have hshort : got.length < type.width := hstop.length_lt
      exact type.comesTo_of_cut hshort failure

end Elementary

/-- **The outcome of decoding.** A unit of a decodable tag is decoded from every script, whatever the
    script plays. Its request stops at one place and no other, and there the unit comes to its value, if
    all bytes have been gathered, and otherwise to the zero of the tag with a fault that tells of the end
    of the input or of the failure met. The script has lost the bytes gathered, the interruptions passed
    over and the event that stopped the request, and is untouched behind that. -/
theorem outcome_law (tag : Tag) (htag : tag.isDecodable = true) (script : Script) :
    ∃ taken why rest, Script.Stops tag.payloadSize script taken why rest
      ∧ (∀ taken' why' rest', Script.Stops tag.payloadSize script taken' why' rest' →
          taken' = taken ∧ why' = why ∧ rest' = rest)
      ∧ ∃ decoding, decode tag script = .ok decoding ∧ ComesTo tag taken why rest decoding := by
  obtain ⟨type, rfl⟩ := Tag.isDecodable_iff.mp htag
  rw [type.payloadSize_tag]
  obtain ⟨taken, why, rest, hstop⟩ := Script.exists_stops type.width_pos script
  refine ⟨taken, why, rest, hstop, ?_, type.decode script, decode_tag type script, ?_⟩
  · intro taken' why' rest' hother
    exact hother.unique hstop
  · exact type.comesTo_decode hstop

/-- A double integer of which three bytes come in two pieces, with interruptions in between, and then a
    failure that is to be met three times. -/
theorem outcome_law_of_broken_pipe :
    let tag : Tag := (Elementary.number .dint).tag
    let retry : Failure := ⟨.interrupted, "retry"⟩
    let broken : Failure := ⟨.other "BrokenPipe", "gone"⟩
    let script : Script := [.data [1], .fail retry 2, .data [2, 3], .fail broken 3, .data [4]]
    let rest : Script := [.fail broken 2, .data [4]]
    tag.isDecodable = true
      ∧ Script.Stops 4 script [1, 2, 3] (some broken) rest
      ∧ ∃ decoding, decode tag script = .ok decoding
          ∧ ComesTo tag [1, 2, 3] (some broken) rest decoding := by
  intro tag retry broken script rest
  have htag : tag.isDecodable = true := by decide
  have hpassed : Script.Passed 4 [.data [1], .fail retry 2, .data [2, 3]] := ⟨by decide, by decide⟩
  have hstop : Script.Stops 4 script [1, 2, 3] (some broken) rest :=
    .failed 3 hpassed (by decide)
  obtain ⟨taken, why, left, -, honly, decoding, hdecode, hcomes⟩ := outcome_law tag htag script
  obtain ⟨rfl, rfl, rfl⟩ := honly _ _ _ hstop
  exact ⟨htag, hstop, decoding, hdecode, hcomes⟩

end CipUnits
