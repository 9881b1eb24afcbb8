import CipUnits.Proofs.Ahead

/-!
# `CipUnits.Proofs.Blocks` — a run over a cursor, block by block

What a run over a cursor comes to can be said without the run. Cut what is ahead of the cursor into
blocks as wide as a unit: a run that asks for no more units than there are whole blocks decodes these
and nothing else happens; a run that asks for more decodes all whole blocks and ends with one fault,
which takes the bytes that are left over.

## Contents
- **Steps.** `step_cursor_of_le` and `step_cursor_of_lt`, with and without a whole block ahead;
  `length_ahead_advance_lt`, how much is behind all whole ones.
- **Blocks.** `Elementary.blocks`, the values of the first blocks, and `Tag.Blocks`, what they are.
- **Runs.** `attempted_add` passes whole blocks; `attempted_of_lt` ends a run.
- `closed_form` — response and reader after any run from a reader whose source has not ended.
-/

namespace CipUnits

namespace Reader

/-! ## Steps -/

theorem advance_zero (reader : Reader Cursor) : reader.advance 0 = reader := rfl

theorem advance_advance (m n : Nat) (reader : Reader Cursor) :
    (reader.advance m).advance n = reader.advance (m + n) := by
  simp [advance, Cursor.seek, Nat.add_assoc]

@[simp] theorem ahead_advance (n : Nat) (reader : Reader Cursor) :
    (reader.advance n).source.ahead = reader.source.ahead.drop n :=
  reader.source.ahead_seek_add n

variable {reader : Reader Cursor} {type : Elementary}

/-- With a whole block ahead, a step is clean and takes the block. -/
theorem step_cursor_of_le (h : type.width ≤ reader.source.ahead.length) :
    reader.step type
      = (.clean (type.decode reader.source.ahead).unit.value, reader.advance type.width) := by
  rw [step_cursor, type.decode_of_length_le h]
  simp [FaultRecord.note, Decoded.metEnd, Decoded.fault?, Decoded.value, advance]

/-- Without a whole block ahead, a step meets the end of the source and takes what there is. -/
theorem step_cursor_of_lt (h : reader.source.ahead.length < type.width) :
    reader.step type = (.faulty ⟨type, .endOfInput⟩,
      { reader.advance reader.source.ahead.length with
        record := reader.record.note reader.settings (.faulty ⟨type, .endOfInput⟩)
        exhausted := true }) := by
  rw [step_cursor, type.decode_of_length_lt h]
  simp [Decoded.metEnd, Decoded.fault?, Fault.isShortRead, Failure.endOfInput]

/-- Behind all whole blocks there is less than one more. -/
theorem length_ahead_advance_lt {whole : Nat}
    (hfew : reader.source.ahead.length < (whole + 1) * type.width) :
    (reader.advance (whole * type.width)).source.ahead.length < type.width := by
  have hpos := type.width_pos
  rw [Nat.succ_mul] at hfew
  rw [ahead_advance, List.length_drop]
  omega

end Reader

/-! ## Blocks -/

/-- A block is decoded alone as it is in front of other bytes. -/
theorem Elementary.decode_take (type : Elementary) {bytes : List UInt8}
    (h : type.width ≤ bytes.length) :
    type.decode (bytes.take type.width) = ⟨.clean (type.decode bytes).unit.value, type.width, []⟩ := by
  have hblock : type.width ≤ (bytes.take type.width).length := by
    rw [List.length_take]
    omega
  have hsame : (bytes.take type.width).take type.width = bytes.take type.width := by
    rw [List.take_take, Nat.min_self]
  rw [type.decode_of_length_le hblock, type.decode_of_length_le h]
  simp only [hsame, Decoded.value, List.drop_take_self]

/-- The values of the first blocks of some bytes. -/
def Elementary.blocks (type : Elementary) : (count : Nat) → List UInt8 → List Value
  | 0, _ => []
  | count + 1, bytes =>
      (type.decode bytes).unit.value :: type.blocks count (bytes.drop type.width)

@[simp] theorem Elementary.length_blocks (type : Elementary) (count : Nat) (bytes : List UInt8) :
    (type.blocks count bytes).length = count := by
  induction count generalizing bytes with
  | zero => rfl
  | succ count ih => simp [blocks, ih]

/-- Each of some values is cleanly decoded from the block at its place. -/
def Tag.Blocks (tag : Tag) (bytes : List UInt8) (values : List Value) : Prop :=
  ∀ (i : Nat) (value : Value), values[i]? = some value →
    decode tag ((bytes.drop (i * tag.payloadSize)).take tag.payloadSize)
      = .ok ⟨.clean value, tag.payloadSize, []⟩

theorem Elementary.blocks_spec (type : Elementary) {count : Nat} {bytes : List UInt8}
    (h : count * type.width ≤ bytes.length) : type.tag.Blocks bytes (type.blocks count bytes) := by
  induction count generalizing bytes with
  | zero =>
      intro i value hvalue
      simp [blocks] at hvalue
  | succ count ih =>
      rw [Nat.succ_mul] at h
      have hlater : type.tag.Blocks (bytes.drop type.width) (type.blocks count (bytes.drop type.width)) :=
        ih (by rw [List.length_drop]; omega)
      intro i value hvalue
      cases i with
      | zero =>
          obtain rfl : (type.decode bytes).unit.value = value := by simpa [blocks] using hvalue
          simp [type.decode_take (show type.width ≤ bytes.length by omega)]
      | succ i =>
          have hnext := hlater i value (by simpa [blocks] using hvalue)
          rw [List.drop_drop, Elementary.payloadSize_tag, Nat.add_comm, ← Nat.succ_mul] at hnext
          rwa [Elementary.payloadSize_tag]

namespace Reader

/-! ## Runs -/

variable {reader : Reader Cursor} {type : Elementary}

/-- A run passes whole blocks one by one, and then goes on behind them. -/
theorem attempted_add (hopen : reader.exhausted = false) (whole more : Nat)
    (h : whole * type.width ≤ reader.source.ahead.length) :
    reader.attempted type (whole + more)
        = (type.blocks whole reader.source.ahead).map Decoded.clean
          ++ (reader.advance (whole * type.width)).attempted type more
      ∧ (reader.attempts type.tag (whole + more)).reader
        = ((reader.advance (whole * type.width)).attempts type.tag more).reader := by
  induction whole generalizing reader with
  | zero => simp [Elementary.blocks, advance_zero]
  | succ whole ih =>
      rw [Nat.succ_mul] at h
      have hstep : reader.step type = _ := step_cursor_of_le (by omega)
      have hnext : (reader.advance type.width).exhausted = false := hopen
      have hmore := ih hnext (by rw [ahead_advance, List.length_drop]; omega)
      rw [advance_advance, Nat.add_comm type.width, ahead_advance] at hmore
      rw [Nat.succ_add, attempted, attempts_succ, hstep, Nat.succ_mul]
      simp [hnext, hmore, Elementary.blocks]

/-- Without a whole block ahead, a run ends with its first unit. -/
theorem attempted_of_lt (more : Nat) (h : reader.source.ahead.length < type.width) :
    reader.attempted type (more + 1) = [.faulty ⟨type, .endOfInput⟩]
      ∧ (reader.attempts type.tag (more + 1)).reader
        = { reader.advance reader.source.ahead.length with
            record := reader.record.note reader.settings (.faulty ⟨type, .endOfInput⟩)
            exhausted := true } := by
  rw [attempted, attempts_succ, step_cursor_of_lt h]
  constructor
  · simp
  · cases reader.settings.surfaced? (.faulty ⟨type, .endOfInput⟩) <;> simp

/-- A run with enough whole blocks ahead decodes these. -/
theorem attempted_of_enough (hopen : reader.exhausted = false) (count : Nat)
    (h : count * type.width ≤ reader.source.ahead.length) :
    reader.attempted type count = (type.blocks count reader.source.ahead).map Decoded.clean
      ∧ (reader.attempts type.tag count).reader = reader.advance (count * type.width) := by
  simpa [attempted, attempts] using attempted_add hopen count 0 h

/-- A run with too few whole blocks ahead decodes these and one unit that is cut off. -/
theorem attempted_of_few (hopen : reader.exhausted = false) (whole more : Nat)
    (henough : whole * type.width ≤ reader.source.ahead.length)
    (hfew : reader.source.ahead.length < (whole + 1) * type.width) :
    reader.attempted type (whole + (more + 1))
        = (type.blocks whole reader.source.ahead).map Decoded.clean ++ [.faulty ⟨type, .endOfInput⟩]
      ∧ (reader.attempts type.tag (whole + (more + 1))).reader
        = { reader.advance reader.source.ahead.length with
            record := reader.record.note reader.settings (.faulty ⟨type, .endOfInput⟩)
            exhausted := true } := by
  have hshort := length_ahead_advance_lt hfew
  have hall : whole * type.width + (reader.advance (whole * type.width)).source.ahead.length
      = reader.source.ahead.length := by
    rw [ahead_advance, List.length_drop]
    omega
  obtain ⟨hunits, hreader⟩ := attempted_add hopen whole (more + 1) henough
  obtain ⟨hlast, hend⟩ := attempted_of_lt more hshort
  rw [advance_advance, hall] at hend
  exact ⟨by rw [hunits, hlast], hreader.trans hend⟩

/-! ## The closed form -/

/-- **A run over a cursor in closed form.** With enough whole blocks ahead, a run decodes as many as it
    asks for, and all that changes is that the cursor moves behind them. With fewer, it decodes all of
    them and then meets the end of the source, where the cursor moves behind all bytes: a lenient reader
    answers with the zero of the type behind the other values and notes the fault, a strict one answers
    with the fault. -/
theorem closed_form (reader : Reader Cursor) (hopen : reader.exhausted = false) (tag : Tag)
    (htag : tag.isDecodable = true) (count : Nat) :
    let width := tag.payloadSize
    let left := reader.source.data.size - reader.source.position
    let whole := left / width
    let done := reader.perform (.readUnits tag count)
    (count ≤ whole →
        ∃ values : List Value,
          values.length = count ∧ tag.Blocks reader.source.ahead values
            ∧ done.response = .values values
            ∧ done.reader = reader.advance (count * width))
      ∧ (whole < count →
          ∃ (values : List Value) (fault : Fault),
            values.length = whole ∧ tag.Blocks reader.source.ahead values
              ∧ fault.tag = tag ∧ fault.expected = width ∧ fault.failure = .endOfInput
              ∧ (reader.settings.strict = false →
                  done.response = .values (values ++ [.zero fault.type])
                    ∧ done.reader = { reader.advance left with
                        exhausted := true
                        record := reader.record.add reader.settings.capacity fault })
              ∧ (reader.settings.strict = true →
                  done.response = .error (.fault fault)
                    ∧ done.reader = { reader.advance left with exhausted := true })) := by
  obtain ⟨type, rfl⟩ := Tag.isDecodable_iff.mp htag
  intro width left whole done
  have hwidth : width = type.width := type.payloadSize_tag
  have hleft : reader.source.ahead.length = left := by simp [Cursor.ahead, left]
  have hreader := reader_readUnits_tag type count reader
  constructor
  · intro hcount
    have hfits : count * type.width ≤ reader.source.ahead.length := by
      rw [hleft, ← hwidth]
      exact (Nat.le_div_iff_mul_le (hwidth ▸ type.width_pos)).mp hcount
    obtain ⟨hunits, hafter⟩ := attempted_of_enough hopen count hfits
    refine ⟨type.blocks count reader.source.ahead, type.length_blocks count _,
      type.blocks_spec hfits, response_of_clean hunits, ?_⟩
    rw [hwidth]
    exact hreader.trans hafter
  · intro hcount
    have henough : whole * type.width ≤ reader.source.ahead.length := by
      rw [hleft, ← hwidth]
      exact Nat.div_mul_le_self left width
    have hfew : reader.source.ahead.length < (whole + 1) * type.width := by
      rw [hleft, ← hwidth, Nat.mul_comm]
      exact Nat.lt_mul_div_succ left (hwidth ▸ type.width_pos)
    obtain ⟨more, rfl⟩ : ∃ more, count = whole + (more + 1) := ⟨count - whole - 1, by omega⟩
    obtain ⟨hunits, hafter⟩ := attempted_of_few hopen whole more henough hfew
    have hresponse := response_of_faulty hunits
    rw [hleft] at hafter
    refine ⟨type.blocks whole reader.source.ahead, ⟨type, .endOfInput⟩, type.length_blocks whole _,
      type.blocks_spec henough, rfl, hwidth.symm, rfl, ?_, ?_⟩
    · intro hlenient
      rw [hlenient] at hresponse
      rw [FaultRecord.note_of_lenient hlenient] at hafter
      exact ⟨hresponse, hreader.trans hafter⟩
    · intro hstrict
      rw [hstrict] at hresponse
      rw [FaultRecord.note_of_strict hstrict] at hafter
      exact ⟨hresponse, hreader.trans hafter⟩

/-- Five bytes ahead of a cursor that was moved, and three units of two bytes asked for. -/
theorem closed_form_of_five_bytes :
    let reader := (start (Cursor.ofBytes [9, 1, 0, 2, 0, 3]) {}).mapSource (Cursor.seek 1)
    let tag : Tag := (Elementary.number .int).tag
    reader.exhausted = false ∧ tag.isDecodable = true
      ∧ ∃ values : List Value, values.length = 2 ∧ tag.Blocks [1, 0, 2, 0, 3] values
          ∧ (reader.perform (.readUnits tag 3)).response = .values (values ++ [.number .int 0])
          ∧ (reader.perform (.readUnits tag 3)).reader.consumed = 5
          ∧ (reader.perform (.readUnits tag 3)).reader.exhausted = true := by
  intro reader tag
  have hdecodable : tag.isDecodable = true := by decide
  obtain ⟨values, fault, hlength, hblocks, htag, -, -, hlenient, -⟩ :=
    (closed_form reader rfl tag hdecodable 3).2 (by decide)
  obtain ⟨hresponse, hreader⟩ := hlenient rfl
  have htype : fault.type = .number .int :=
    Option.some.inj (fault.type.elementary?_tag.symm.trans (congrArg Tag.elementary? htag))
  rw [htype] at hresponse
  refine ⟨rfl, hdecodable, values, hlength.trans (by decide), hblocks, hresponse, ?_, ?_⟩
  · rw [hreader]
    rfl
  · rw [hreader]

end Reader

end CipUnits
