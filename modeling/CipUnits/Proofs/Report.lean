import CipUnits.Proofs.Blocks
import CipUnits.Proofs.Stages

/-!
# `CipUnits.Proofs.Report` — what the decode command reports

The decode command has a loop of its own over one reader. It asks for one unit after another, writes down
the number of bytes taken before each, and looks for the fault of a unit on the record of the reader. Units,
events and reader are those of a run of the library. The rest of a row is what the loop adds, and that can
be said from the input alone: a row stands as many units in as there are rows before it, and on an input
that is all there only the end gives a fault, for which there is always room on record.

So the input gives one row for each whole block that was asked for, and, if more was asked for than there
is, one row for the unit that is cut off.

## Contents
- **The loop.** `collect_agrees`, the loop and a run of the reader side by side;
  `FaultRecord.getElem?_note`, where a fault is found.
- **Rows.** `Report.wholeRows`, the rows of the first blocks; `answer_collect_add` passes whole blocks,
  `collect_of_enough` and `collect_of_few` say all that the loop comes to.
- **Reports.** `Report.listing`, made from the input alone; `make_tag`, what either mode makes of it.
- **Listing.** `Report.Lists`, what a report says of its input, and `lists_listing`; `Lists.of_default`,
  where no count is given.
- `run_decode_tag` — the decode command in either mode; `report_law` — a lenient one on any input.
-/

namespace CipUnits

attribute [ext] Reader.Outcome

/-! ## The loop -/

/-- With room for it, a fault that a lenient reader notes stands on record behind all others. -/
theorem FaultRecord.getElem?_note {settings : Settings} {record : FaultRecord}
    (hlenient : settings.strict = false) (hroom : record.kept.size < settings.capacity) (fault : Fault) :
    (record.note settings (.faulty fault)).kept[record.kept.size]? = some fault := by
  rw [note_of_lenient hlenient]
  show (record.add settings.capacity fault).kept[record.kept.size]? = some fault
  rw [add, if_pos hroom]
  exact Array.getElem?_push_size

namespace Command

/-- **The loop of the command reads as a run of the reader does**: to the same values or the same error,
    by the same events, and it leaves the same reader. -/
theorem collect_agrees (tag : Tag) (count index : Nat) (reader : Reader Cursor) :
    let loop := Report.collect tag count index reader
    let run := reader.attempts tag count
    loop.answer.map (List.map Report.Row.value) = run.answer ∧ loop.reader = run.reader
      ∧ loop.events = run.events := by
  induction count generalizing index reader with
  | zero => exact ⟨rfl, rfl, rfl⟩
  | succ count ih =>
      rw [Report.collect, Reader.attempts]
      cases (reader.readUnit tag).answer with
      | error e => exact ⟨rfl, rfl, rfl⟩
      | ok value =>
          obtain ⟨hanswer, hreader, hevents⟩ := ih (index + 1) (reader.readUnit tag).reader
          by_cases hend : (reader.readUnit tag).reader.exhausted = true
          · simp [hend, Except.map]
          · simp only [if_neg hend, ← hanswer, hreader, hevents, and_true]
            cases (Report.collect tag count (index + 1) (reader.readUnit tag).reader).answer <;> rfl

/-! ## Rows -/

variable {type : Elementary} {input : List UInt8} {count : Nat}

/-- The rows of the first whole blocks of some bytes, of which the first has an index and an offset. -/
def Report.wholeRows (type : Elementary) (count index offset : Nat) (bytes : List UInt8) :
    List Report.Row :=
  (type.blocks count bytes).mapIdx fun i value => ⟨index + i, offset + i * type.width, value, none⟩

/-- The row of a unit that is cut off. -/
def Report.cutRow (type : Elementary) (index offset : Nat) : Report.Row :=
  ⟨index, offset, .zero type, some ⟨type, .endOfInput⟩⟩

namespace Report

@[simp] theorem length_wholeRows (type : Elementary) (count index offset : Nat) (bytes : List UInt8) :
    (wholeRows type count index offset bytes).length = count := by
  simp [wholeRows]

theorem wholeRows_succ (type : Elementary) (count index offset : Nat) (bytes : List UInt8) :
    wholeRows type (count + 1) index offset bytes
      = ⟨index, offset, (type.decode bytes).unit.value, none⟩
        :: wholeRows type count (index + 1) (offset + type.width) (bytes.drop type.width) := by
  unfold wholeRows
  rw [Elementary.blocks, List.mapIdx_cons]
  simp only [Nat.zero_mul, Nat.add_zero, Nat.succ_mul, Nat.add_assoc, Nat.add_comm type.width,
    Nat.add_comm 1]

/-- Every row shows the block at its place. -/
theorem getElem?_wholeRows (type : Elementary) {count i : Nat} {bytes : List UInt8}
    (h : count * type.width ≤ bytes.length) (hi : i < count) (index offset : Nat) :
    ∃ value : Value,
      CipUnits.decode type.tag ((bytes.drop (i * type.width)).take type.width)
          = .ok ⟨.clean value, type.width, []⟩
        ∧ (wholeRows type count index offset bytes)[i]?
          = some ⟨index + i, offset + i * type.width, value, none⟩ := by
  have hsome : i < (type.blocks count bytes).length := by simpa using hi
  have hvalue := type.blocks_spec h i (type.blocks count bytes)[i] (List.getElem?_eq_getElem hsome)
  rw [type.payloadSize_tag] at hvalue
  refine ⟨(type.blocks count bytes)[i], hvalue, ?_⟩
  unfold wholeRows
  rw [List.getElem?_mapIdx, List.getElem?_eq_getElem hsome]
  rfl

/-- No row of a whole block has a fault. -/
theorem countP_wholeRows (type : Elementary) (count index offset : Nat) (bytes : List UInt8) :
    (wholeRows type count index offset bytes).countP (fun row => row.fault?.isSome) = 0 := by
  rw [List.countP_eq_zero]
  intro row hrow
  obtain ⟨i, hi, rfl⟩ := List.mem_mapIdx.mp hrow
  exact Bool.false_ne_true

end Report

section

variable {reader : Reader Cursor}

/-- The loop lists whole blocks one by one, and then what it answers behind them. -/
theorem answer_collect_add (hopen : reader.exhausted = false) (whole more index : Nat)
    (h : whole * type.width ≤ reader.source.ahead.length) :
    (Report.collect type.tag (whole + more) index reader).answer
      = (Report.collect type.tag more (index + whole) (reader.advance (whole * type.width))).answer.map
          (Report.wholeRows type whole index reader.consumed reader.source.ahead ++ ·) := by
  induction whole generalizing index reader with
  | zero =>
      rw [Nat.zero_add, Nat.zero_mul, Reader.advance_zero]
      cases (Report.collect type.tag more index reader).answer <;> rfl
  | succ whole ih =>
      rw [Nat.succ_mul] at h
      have hstep : reader.step type = _ := Reader.step_cursor_of_le (by omega)
      have hnext : (reader.advance type.width).exhausted = false := hopen
      have hmore := ih hnext (index + 1) (by rw [Reader.ahead_advance, List.length_drop]; omega)
      -- the reader behind this block counts its bytes, which is where the next row begins
      rw [Reader.advance_advance, Nat.add_comm type.width, ← Nat.succ_mul, Reader.ahead_advance,
        Nat.add_assoc, Nat.add_comm 1] at hmore
      -- a clean unit leaves nothing on record where the loop looks for its fault
      have hclean : (reader.advance type.width).record.kept[reader.record.kept.size]? = none :=
        Array.getElem?_size
      rw [Nat.succ_add, Report.collect, Reader.readUnit_tag, hstep, Report.wholeRows_succ]
      simp only [Settings.surfaced?_clean, hnext, Bool.false_eq_true, if_false, hmore, hclean]
      cases (Report.collect type.tag more (index + (whole + 1))
        (reader.advance ((whole + 1) * type.width))).answer <;> rfl

/-- Without a whole block ahead, the loop comes to the unit that is cut off, or in a strict reader to its
    fault. -/
theorem answer_collect_of_lt (hroom : reader.record.kept.size < reader.settings.capacity)
    (more index : Nat) (h : reader.source.ahead.length < type.width) :
    (Report.collect type.tag (more + 1) index reader).answer
      = if reader.settings.strict then .error (.fault ⟨type, .endOfInput⟩)
        else .ok [Report.cutRow type index reader.consumed] := by
  rw [Report.collect, Reader.readUnit_tag, Reader.step_cursor_of_lt h]
  cases hmode : reader.settings.strict with
  | true =>
      rw [Settings.surfaced?_of_strict hmode]
      rfl
  | false =>
      have hfault := FaultRecord.getElem?_note hmode hroom ⟨type, .endOfInput⟩
      rw [Settings.surfaced?_of_lenient hmode]
      simp only [hfault, if_true]
      rfl

/-- **With enough whole blocks ahead**, the loop lists these and nothing else happens. -/
theorem collect_of_enough (hopen : reader.exhausted = false) (count index : Nat)
    (h : count * type.width ≤ reader.source.ahead.length) :
    Report.collect type.tag count index reader
      = ⟨.ok (Report.wholeRows type count index reader.consumed reader.source.ahead),
        reader.advance (count * type.width),
        (type.blocks count reader.source.ahead).map Event.unit⟩ := by
  obtain ⟨hunits, hlast⟩ := Reader.attempted_of_enough hopen count h
  obtain ⟨-, hreader, hevents⟩ := collect_agrees type.tag count index reader
  refine Reader.Outcome.ext ?_ (hreader.trans hlast) ?_
  · have hall := answer_collect_add hopen count 0 index h
    rw [Nat.add_zero] at hall
    rw [hall, Report.collect]
    simp [Except.map]
  · rw [hevents, Reader.events_attempts, hunits, List.map_map]
    rfl

/-- **With too few whole blocks ahead**, the loop lists these and the unit that is cut off, or surfaces
    its fault. -/
theorem collect_of_few (hopen : reader.exhausted = false)
    (hroom : reader.record.kept.size < reader.settings.capacity) (whole more index : Nat)
    (henough : whole * type.width ≤ reader.source.ahead.length)
    (hfew : reader.source.ahead.length < (whole + 1) * type.width) :
    Report.collect type.tag (whole + (more + 1)) index reader
      = ⟨if reader.settings.strict then .error (.fault ⟨type, .endOfInput⟩)
          else .ok (Report.wholeRows type whole index reader.consumed reader.source.ahead
            ++ [Report.cutRow type (index + whole) (reader.consumed + whole * type.width)]),
        { reader.advance reader.source.ahead.length with
          record := reader.record.note reader.settings (.faulty ⟨type, .endOfInput⟩)
          exhausted := true },
        (type.blocks whole reader.source.ahead).map Event.unit ++ [.fault ⟨type, .endOfInput⟩]⟩ := by
  obtain ⟨hunits, hlast⟩ := Reader.attempted_of_few hopen whole more henough hfew
  obtain ⟨-, hreader, hevents⟩ := collect_agrees type.tag (whole + (more + 1)) index reader
  refine Reader.Outcome.ext ?_ (hreader.trans hlast) ?_
  · let behind := reader.advance (whole * type.width)
    have hbehind : behind.record.kept.size < behind.settings.capacity := hroom
    have hshort : behind.source.ahead.length < type.width := Reader.length_ahead_advance_lt hfew
    rw [answer_collect_add hopen whole (more + 1) index henough,
      answer_collect_of_lt hbehind more (index + whole) hshort]
    show (if reader.settings.strict then _ else _ : Except ReadError (List Report.Row)).map _ = _
    split <;> rfl
  · rw [hevents, Reader.events_attempts, hunits, List.map_append, List.map_map]
    rfl

end

/-! ## Reports -/

/-- The report on so many units of an input: a row for each whole block, and one more for a unit that is
    cut off, if more were asked for. -/
def Report.listing (type : Elementary) (count : Nat) (input : List UInt8) : Report :=
  let whole := input.length / type.width
  { tag := type.tag
    inputSize := input.length
    consumed := min (count * type.width) input.length
    rows := wholeRows type (min count whole) 0 0 input
      ++ if whole < count then [cutRow type whole (whole * type.width)] else []
    faults := if whole < count then 1 else 0 }

/-- With enough whole blocks, both modes come to the same report, by the same events. -/
theorem make_of_enough (hcount : count ≤ input.length / type.width) (strict : Bool) :
    Report.make type.tag input count strict
      = (.ok (.listing type count input), (type.blocks count input).map Event.unit) := by
  have hfits : count * type.width ≤ input.length := (Nat.le_div_iff_mul_le type.width_pos).mp hcount
  unfold Report.make
  rw [collect_of_enough, Cursor.ahead_ofBytes]
  · simp [Report.listing, Nat.not_lt.mpr hcount, Nat.min_eq_left hcount, Nat.min_eq_left hfits,
      Except.map, Reader.advance, FaultRecord.total]
  · rfl
  · rwa [Cursor.ahead_ofBytes]

/-- With fewer, only a lenient reader comes to a report, and the other one to the fault. -/
theorem make_of_few (hcount : input.length / type.width < count) (strict : Bool) :
    Report.make type.tag input count strict
      = (if strict then .error (.fault ⟨type, .endOfInput⟩) else .ok (.listing type count input),
        (type.blocks (input.length / type.width) input).map Event.unit
          ++ [.fault ⟨type, .endOfInput⟩]) := by
  have henough : input.length / type.width * type.width ≤ input.length := Nat.div_mul_le_self _ _
  have hfew : input.length < (input.length / type.width + 1) * type.width := by
    rw [Nat.mul_comm]
    exact Nat.lt_mul_div_succ _ type.width_pos
  have hconsumed : min (count * type.width) input.length = input.length := by
    have hmore := Nat.mul_le_mul_right type.width (Nat.succ_le_of_lt hcount)
    exact Nat.min_eq_right (Nat.le_of_lt (Nat.lt_of_lt_of_le hfew hmore))
  unfold Report.make Report.listing
  dsimp only
  rw [hconsumed, Nat.min_eq_right (Nat.le_of_lt hcount), if_pos hcount, if_pos hcount]
  -- the run lemma wants the count as the whole blocks, the cut unit and some more
  obtain ⟨more, rfl⟩ : ∃ more, count = input.length / type.width + (more + 1) :=
    ⟨count - input.length / type.width - 1, by omega⟩
  rw [collect_of_few, Cursor.ahead_ofBytes]
  · cases strict with
    | true => rfl
    | false => simp [Except.map, Reader.advance, FaultRecord.note, FaultRecord.add, FaultRecord.total]
  · rfl
  · exact Nat.zero_lt_succ _
  · rwa [Cursor.ahead_ofBytes]
  · rwa [Cursor.ahead_ofBytes]

/-- **The report of either mode.** What a lenient reader lists, a strict one lists too, unless a unit is
    cut off. -/
theorem make_tag (type : Elementary) (input : List UInt8) (count : Nat) (strict : Bool) :
    Report.make type.tag input count strict
      = (if strict = true ∧ input.length / type.width < count then .error (.fault ⟨type, .endOfInput⟩)
          else .ok (.listing type count input),
        (type.blocks (min count (input.length / type.width)) input).map Event.unit
          ++ if input.length / type.width < count then [.fault ⟨type, .endOfInput⟩] else []) := by
  rcases Nat.lt_or_ge (input.length / type.width) count with hcount | hcount
  · rw [make_of_few hcount, Nat.min_eq_right (Nat.le_of_lt hcount), if_pos hcount]
    cases strict <;> simp [hcount]
  · have hwhole : ¬ input.length / type.width < count := Nat.not_lt.mpr hcount
    rw [make_of_enough hcount, Nat.min_eq_left hcount, if_neg hwhole, if_neg (fun h => hwhole h.2),
      List.append_nil]

/-! ## Listing -/

/-- The row of an index shows where a unit begins, its value and its fault if it has one. -/
structure Report.Shows (report : Report) (index offset : Nat) (type : Elementary) (value : Value)
    (fault : Option Fault) : Prop where
  row : report.rows[index]? = some ⟨index, offset, value, fault⟩
  json : (report.rows.map Report.Row.json)[index]? = some (.object
    [("index", .integer index), ("offset", .integer offset), ("value", value.json),
      ("kind", .string type.kind.name),
      ("fault", (fault.map fun fault => .string fault.message).getD .null)])

/-- A report lists the units of an input, of which so many were asked for. -/
structure Report.Lists (report : Report) (type : Elementary) (input : List UInt8) (count : Nat) :
    Prop where
  /-- There are as many rows as units were asked for, of which one at most is behind the whole ones. -/
  size : report.rows.length = min count (input.length / type.width + 1)
  /-- The row of a whole block shows what the block alone is decoded to. -/
  whole : ∀ i, i < min count (input.length / type.width) → ∃ value : Value,
    CipUnits.decode type.tag ((input.drop (i * type.width)).take type.width)
        = .ok ⟨.clean value, type.width, []⟩
      ∧ report.Shows i (i * type.width) type value none
  /-- The row behind them shows the zero of the type and the fault. -/
  cut : input.length / type.width < count →
    report.Shows (input.length / type.width) (input.length / type.width * type.width) type
      (.zero type) (some ⟨type, .endOfInput⟩)
  /-- The rows with a fault are counted, and there is no other than this one. -/
  faults : report.faults = report.rows.countP (fun row => row.fault?.isSome)
    ∧ report.faults = if input.length / type.width < count then 1 else 0
  json : report.json = .object
    [("tag", .string type.tag.name), ("label", .string type.tag.label),
      ("unit_size", .integer type.width), ("input_size", .integer input.length),
      ("bytes_consumed", .integer (min (count * type.width) input.length : Nat)),
      ("units", .array (report.rows.map Report.Row.json)), ("faults", .integer report.faults)]

/-- A row in its place shows what stands in it. -/
theorem Report.shows_of_getElem? {report : Report} {index offset : Nat} {value : Value}
    {fault : Option Fault} (hrow : report.rows[index]? = some ⟨index, offset, value, fault⟩)
    (htype : value.type = type) : report.Shows index offset type value fault := by
  refine ⟨hrow, ?_⟩
  rw [List.getElem?_map, hrow, ← htype]
  rfl

theorem lists_listing (type : Elementary) (input : List UInt8) (count : Nat) :
    (Report.listing type count input).Lists type input count := by
  have henough : input.length / type.width * type.width ≤ input.length := Nat.div_mul_le_self _ _
  have hblocks : min count (input.length / type.width) * type.width ≤ input.length :=
    Nat.le_trans (Nat.mul_le_mul_right _ (Nat.min_le_right _ _)) henough
  refine { size := ?_, whole := ?_, cut := ?_, faults := ⟨?_, rfl⟩, json := ?_ }
  · simp only [Report.listing, List.length_append, Report.length_wholeRows]
    split
    · rw [List.length_singleton]
      omega
    · rw [List.length_nil]
      omega
  · intro i hi
    obtain ⟨value, hdecode, hwhole⟩ := Report.getElem?_wholeRows type hblocks hi 0 0
    have htype : value.type = type := by
      have hunit := type.type_value_decode ((input.drop (i * type.width)).take type.width)
      rw [decode_tag] at hdecode
      rwa [Except.ok.inj hdecode] at hunit
    have hrow : (Report.listing type count input).rows[i]? = some ⟨i, i * type.width, value, none⟩ := by
      rw [Nat.zero_add, Nat.zero_add] at hwhole
      rw [Report.listing, List.getElem?_append_left, hwhole]
      rwa [Report.length_wholeRows]
    exact ⟨value, hdecode, Report.shows_of_getElem? hrow htype⟩
  · intro hcut
    have hrow : (Report.listing type count input).rows[input.length / type.width]?
        = some (Report.cutRow type (input.length / type.width) (input.length / type.width * type.width)) := by
      simp [Report.listing, hcut, Nat.min_eq_right (Nat.le_of_lt hcut)]
    exact Report.shows_of_getElem? hrow (Value.type_zero type)
  · simp only [Report.listing, List.countP_append, Report.countP_wholeRows]
    split <;> rfl
  · simp [Report.json, Report.listing]

/-- As many units as the default count asks for: a fault stands for an input without a whole block, and
    else the rows are the whole blocks. -/
theorem Report.Lists.of_default {report : Report}
    (h : report.Lists type input (max 1 (input.length / type.width))) :
    (report.faults ≠ 0 ↔ input.length < type.width)
      ∧ (type.width ≤ input.length → report.rows.length = input.length / type.width) := by
  have hempty : input.length / type.width = 0 ↔ input.length < type.width :=
    Nat.div_eq_zero_iff_lt type.width_pos
  have hdefault : ∀ n, (n < max 1 n ↔ n = 0) ∧ (n ≠ 0 → min (max 1 n) (n + 1) = n) := by omega
  constructor
  · rw [h.faults.2, ite_ne_right_iff, and_iff_left Nat.one_ne_zero, (hdefault _).1, hempty]
  · intro hlong
    rw [h.size]
    exact (hdefault _).2 fun hzero => Nat.not_lt.mpr hlong (hempty.mp hzero)

/-! ## The law -/

theorem unlines_singleton (line : String) : unlines [line] = line ++ "\n" := String.empty_append

/-- A decodable tag has the width of its type, so that the default is every whole block, or one unit. -/
theorem defaultCount_tag (type : Elementary) (size : Nat) :
    defaultCount type.tag size = max 1 (size / type.width) := by
  unfold defaultCount
  rw [type.payloadSize_tag, if_neg (Nat.ne_of_gt type.width_pos)]

/-- The decode command for a decodable tag and an input that is there, in either mode. -/
theorem run_decode_tag {setup : Setup} {invocation : Invocation} {request : DecodeRequest}
    (hrequest : invocation.request = .decode request) (htag : Tag.parse request.tag = .ok type.tag)
    (hinput : decodeInput setup request = .ok input)
    (hcount : request.count.getD (max 1 (input.length / type.width)) = count) :
    run setup invocation = .ofResult
      (if request.strict = true ∧ input.length / type.width < count then
          .error ⟨some "decode failed", .read (.fault ⟨type, .endOfInput⟩)⟩
        else .ok ((Report.listing type count input).lines (invocation.format.getD setup.defaultFormat)))
      (invocation.verbosity.filter (.started invocation.verbosity.showsFaults ::
        ((type.blocks (min count (input.length / type.width)) input).map Event.unit
          ++ if input.length / type.width < count then [.fault ⟨type, .endOfInput⟩] else []))) := by
  rw [← defaultCount_tag] at hcount
  have hmake := make_tag type input count request.strict
  by_cases hcut : request.strict = true ∧ input.length / type.width < count
  · rw [if_pos hcut] at hmake ⊢
    exact run_decode hrequest (decodeLines_of_error htag hinput hcount hmake _)
  · rw [if_neg hcut] at hmake ⊢
    exact run_decode hrequest (decodeLines_of_report htag hinput hcount hmake _)

/-- **The decode command.** For a decodable tag and any input, a lenient run succeeds and prints the report
    that is drawn up from the input, which lists the units of the input, as many as were asked for, but
    never more than the default count and one. Where no count is given, a fault is reported exactly if
    there is no whole block, and else all whole blocks are listed. -/
theorem report_law (setup : Setup) (invocation : Invocation) (request : DecodeRequest)
    (hrequest : invocation.request = .decode request) (hlenient : request.strict = false)
    (tag : Tag) (htag : Tag.parse request.tag = .ok tag) (hdecodable : tag.isDecodable = true)
    (input : List UInt8) (hinput : decodeInput setup request = .ok input) :
    let width := tag.payloadSize
    let whole := input.length / width
    let count := request.count.getD (max 1 whole)
    let format := invocation.format.getD setup.defaultFormat
    let outcome := run setup invocation
    ∃ (type : Elementary) (report : Report), tag.elementary? = some type ∧ width = type.width
      ∧ (Report.make tag input count false).1 = .ok report
      ∧ outcome.exitCode = 0 ∧ outcome.stderr = ""
      ∧ outcome.stdout = unlines (report.lines format)
      ∧ (format = .json → outcome.stdout =
          (Json.object
            [("tag", .string tag.name), ("label", .string tag.label), ("unit_size", .integer width),
              ("input_size", .integer input.length),
              ("bytes_consumed", .integer (min (count * width) input.length : Nat)),
              ("units", .array (report.rows.map Report.Row.json)),
              ("faults", .integer (if whole < count then 1 else 0 : Nat))]).text ++ "\n")
      ∧ report.Lists type input count
      ∧ report.rows.length ≤ min count (defaultCount tag input.length + 1)
      ∧ defaultCount tag input.length = max 1 whole
      ∧ (request.count = none →
          (report.faults ≠ 0 ↔ input.length < width)
            ∧ (width ≤ input.length → report.rows.length = whole)) := by
  obtain ⟨type, rfl⟩ := Tag.isDecodable_iff.mp hdecodable
  rw [type.payloadSize_tag, defaultCount_tag]
  intro width whole count format outcome
  have hlists : (Report.listing type count input).Lists type input count :=
    lists_listing type input count
  have hmake : (Report.make type.tag input count false).1 = .ok (.listing type count input) := by
    rw [make_tag, if_neg (fun hstrict => Bool.false_ne_true hstrict.1)]
  have houtcome : outcome = .ofResult _ _ := run_decode_tag hrequest htag hinput rfl
  rw [if_neg (fun hstrict => Bool.false_ne_true (hlenient.symm.trans hstrict.1))] at houtcome
  have hstdout : outcome.stdout = unlines ((Report.listing type count input).lines format) := by
    rw [houtcome]
    rfl
  refine ⟨type, .listing type count input, type.elementary?_tag, rfl, hmake, ?_, ?_, hstdout, ?_, hlists,
    ?_, rfl, ?_⟩
  · rw [houtcome]
    rfl
  · rw [houtcome]
    rfl
  · intro hjson
    rw [hstdout, hjson]
    show unlines [(Report.listing type count input).json.text] = _
    rw [hlists.json, hlists.faults.2, unlines_singleton]
  · rw [hlists.size]
    have hrows : whole + 1 ≤ max 1 whole + 1 := Nat.succ_le_succ (Nat.le_max_right 1 whole)
    exact Nat.le_min.mpr ⟨Nat.min_le_left _ _, Nat.le_trans (Nat.min_le_right _ _) hrows⟩
  · intro hnone
    have hcount : count = max 1 whole := by simp [count, hnone]
    rw [hcount] at hlists ⊢
    exact hlists.of_default

/-- Five bytes spelled in two texts, and three units of four bytes asked for. -/
theorem report_law_of_five_bytes :
    let setup : Setup := { fileContent := fun _ => .error .endOfInput }
    let request : DecodeRequest := { tag := " dint", hex := ["0x01000000", "02"], count := some 3 }
    let invocation : Invocation :=
      { format := none, logFormat := .text, verbosity := .off, request := .decode request }
    request.strict = false ∧ Tag.parse request.tag = .ok (Elementary.number .dint).tag
      ∧ (Elementary.number .dint).tag.isDecodable = true
      ∧ decodeInput setup request = .ok [1, 0, 0, 0, 2]
      ∧ ∃ report : Report, (run setup invocation).exitCode = 0
          ∧ (Report.make (Elementary.number .dint).tag [1, 0, 0, 0, 2] 3 false).1 = .ok report
          ∧ (run setup invocation).stdout =
              (Json.object
                [("tag", .string "DINT"), ("label", .string "0xC4 - DINT"), ("unit_size", .integer 4),
                  ("input_size", .integer 5), ("bytes_consumed", .integer 5),
                  ("units", .array (report.rows.map Report.Row.json)),
                  ("faults", .integer 1)]).text ++ "\n"
          ∧ report.Lists (.number .dint) [1, 0, 0, 0, 2] 3
          ∧ report.rows.length = 2 ∧ report.faults = 1 := by
  intro setup request invocation
  have htag : Tag.parse request.tag = .ok (Elementary.number .dint).tag := by decide
  have hdecodable : (Elementary.number .dint).tag.isDecodable = true := by decide
  have hinput : decodeInput setup request = .ok [1, 0, 0, 0, 2] := by decide
  obtain ⟨type, report, htype, -, hmake, hcode, -, -, hjson, hlists, -⟩ :=
    report_law setup invocation request rfl rfl _ htag hdecodable _ hinput
  obtain rfl : .number .dint = type := Option.some.inj htype
  have hprinted := hjson rfl
  exact ⟨rfl, htag, hdecodable, hinput, report, hcode, hmake, hprinted, hlists, hlists.size,
    hlists.faults.2⟩

/-- Nine units asked for, and one and a half there. -/
example :
    (run { fileContent := fun _ => .ok [5, 0, 6] }
      { format := some .raw, logFormat := .text, verbosity := .off
        request := .decode { tag := "INT", file := some "units.bin", count := some 9 } }).stdout
      = "5\n0\n" := by
  decide

end Command

end CipUnits
