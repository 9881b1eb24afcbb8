import CipUnits.Proofs.Report

/-!
# `CipUnits.Proofs.Exit` — how a command line ends

A run either prints and says nothing of errors, or says what went wrong and prints nothing. For the decode
command the exit code tells which stage failed first. A tag of which no unit can be decoded is found out
only when the first unit is asked for, so where none is asked for, the command succeeds.

## Contents
- **Modes.** `make_of_strict`: a strict report is the lenient one, or none.
- **Stages.** `Outcome.Fails`, and `Staged`, what becomes of a decode command stage by stage.
- `exit_law` — every command line.
- `undecodable_law` — a tag that cannot be decoded; `undecodable_tag_exits_zero`, one that goes unnoticed.
-/

namespace CipUnits.Command

/-! ## Modes -/

/-- Units of a tag that cannot be decoded are refused when the first of them is asked for. -/
theorem make_of_not_decodable {tag : Tag} (hnot : tag.isDecodable = false) (input : List UInt8)
    (count : Nat) (strict : Bool) :
    Report.make tag input count strict
      = if count = 0 then (.ok ⟨tag, input.length, 0, [], 0⟩, [])
        else (.error (.unsupported tag), [.refused tag]) := by
  unfold Report.make
  cases count with
  | zero => rfl
  | succ count =>
      rw [Report.collect, Reader.readUnit_of_not_decodable hnot]
      rfl

/-- A strict reader that comes to a report comes to the one of a lenient reader, by the same events. -/
theorem make_of_strict {tag : Tag} {input : List UInt8} {count : Nat} {report : Report}
    {events : List Event} (h : Report.make tag input count true = (.ok report, events)) :
    Report.make tag input count false = (.ok report, events) := by
  by_cases hdecodable : tag.isDecodable = true
  · obtain ⟨type, rfl⟩ := Tag.isDecodable_iff.mp hdecodable
    rw [make_tag] at h ⊢
    by_cases hcut : input.length / type.width < count
    · rw [if_pos ⟨rfl, hcut⟩] at h
      cases h
    · rw [if_neg (fun hboth => hcut hboth.2)] at h ⊢
      exact h
  · rw [Bool.not_eq_true] at hdecodable
    rw [make_of_not_decodable hdecodable] at h ⊢
    exact h

/-! ## Stages -/

/-- An outcome that says what went wrong and prints nothing. -/
def Outcome.Fails (outcome : Outcome) (exitCode : Nat) (message : String) : Prop :=
  outcome.exitCode = exitCode ∧ outcome.stdout = "" ∧ outcome.stderr = "error: " ++ message ++ "\n"

/-- What becomes of a decode command, where the stage that fails first decides. -/
structure Staged (setup : Setup) (invocation : Invocation) (request : DecodeRequest) : Prop where
  /-- A text that names no tag is a mistake of the caller, whatever the input is. -/
  tag : ∀ e, Tag.parse request.tag = .error e →
    (run setup invocation).Fails 64 ("invalid tag: " ++ e.message)
  /-- Behind the tag, a file that cannot be read gives the code of its trouble. -/
  file : ∀ tag path failure, Tag.parse request.tag = .ok tag → request.file = some path →
    setup.fileContent path = .error failure →
    (run setup invocation).Fails
      (match failure.kind with
        | .notFound => 1
        | .permissionDenied => 50
        | _ => 125)
      ("failed reading " ++ path ++ ": " ++ failure.message)
  /-- Behind the tag and without a file, digits that do not spell bytes are a mistake of the caller. -/
  hex : ∀ tag e, Tag.parse request.tag = .ok tag → request.file = none →
    HexDump.read (" ".intercalate request.hex).toList = .error e →
    (run setup invocation).Fails 64 e.message
  /-- Behind tag and input, a run fails exactly if it is strict and a unit is cut off. -/
  units : ∀ tag input, Tag.parse request.tag = .ok tag → decodeInput setup request = .ok input →
    tag.isDecodable = true →
    let whole := input.length / tag.payloadSize
    let count := request.count.getD (max 1 whole)
    (run setup invocation).exitCode = if request.strict = true ∧ whole < count then 60 else 0
  /-- A strict run that succeeds is the lenient run, to the last byte and event. -/
  strict : request.strict = true → (run setup invocation).exitCode = 0 →
    run setup { invocation with request := .decode { request with strict := false } }
      = run setup invocation

theorem Outcome.fails_ofResult (e : CommandError) (events : List Event) :
    (Outcome.ofResult (.error e) events).Fails e.exitCode e.message := ⟨rfl, rfl, rfl⟩

variable {setup : Setup} {invocation : Invocation} {request : DecodeRequest}

/-- A decode command whose lines fail ends with their error. -/
theorem fails_of_decodeLines (hrequest : invocation.request = .decode request) {e : CommandError}
    {events : List Event}
    (h : decodeLines setup request (invocation.format.getD setup.defaultFormat) = (.error e, events)) :
    (run setup invocation).Fails e.exitCode e.message := by
  rw [run_decode hrequest h]
  exact Outcome.fails_ofResult e _

/-- A strict run that succeeds has found every unit whole, so that a lenient run cannot differ. -/
theorem run_of_strict (hrequest : invocation.request = .decode request) (hstrict : request.strict = true)
    (hzero : (run setup invocation).exitCode = 0) :
    run setup { invocation with request := .decode { request with strict := false } }
      = run setup invocation := by
  have hnone : ∀ (e : CommandError) (events : List Event),
      decodeLines setup request (invocation.format.getD setup.defaultFormat) ≠ (.error e, events) := by
    intro e events h
    exact e.exitCode_ne_zero ((fails_of_decodeLines hrequest h).1.symm.trans hzero)
  -- no stage failed, and the stages before the units do not ask for the mode
  cases htag : Tag.parse request.tag with
  | error e => exact absurd (decodeLines_of_unknown htag _) (hnone _ _)
  | ok tag =>
      cases hinput : decodeInput setup request with
      | error e => exact absurd (decodeLines_of_unreadable htag hinput _) (hnone _ _)
      | ok input =>
          rcases hmake : Report.make tag input (request.count.getD (defaultCount tag input.length))
            request.strict with ⟨e | report, events⟩
          · exact absurd (decodeLines_of_error htag hinput rfl hmake _) (hnone _ _)
          · rw [run_decode hrequest (decodeLines_of_report htag hinput rfl hmake _)]
            rw [hstrict] at hmake
            let lenient : DecodeRequest := { request with strict := false }
            have hlenient : Tag.parse lenient.tag = .ok tag := htag
            exact run_decode rfl (decodeLines_of_report hlenient hinput rfl (make_of_strict hmake) _)

/-- **The stages of a decode command.** -/
theorem staged (hrequest : invocation.request = .decode request) : Staged setup invocation request := by
  refine { tag := ?_, file := ?_, hex := ?_, units := ?_, strict := run_of_strict hrequest }
  · intro e htag
    exact fails_of_decodeLines hrequest (decodeLines_of_unknown htag _)
  · intro tag path failure htag hfile hcontent
    have hinput := decodeInput_of_unreadable hfile hcontent
    have hfails := fails_of_decodeLines hrequest (decodeLines_of_unreadable htag hinput _)
    have hcode : CommandError.exitCode ⟨some ("failed reading " ++ path), .file failure⟩ = _ :=
      Cause.exitCode_file failure
    rw [hcode] at hfails
    exact hfails
  · intro tag e htag hfile hhex
    have hinput : decodeInput setup request = _ := decodeInput_of_malformed hfile hhex
    exact fails_of_decodeLines hrequest (decodeLines_of_unreadable htag hinput _)
  · intro tag input htag hinput hdecodable
    obtain ⟨type, rfl⟩ := Tag.isDecodable_iff.mp hdecodable
    rw [type.payloadSize_tag, run_decode_tag hrequest htag hinput rfl]
    intro whole count
    by_cases hcut : request.strict = true ∧ whole < count
    · rw [if_pos hcut, if_pos hcut]
      rfl
    · rw [if_neg hcut, if_neg hcut]
      rfl

/-! ## Every command line -/

/-- **Exit codes.** Every run either succeeds without a word of errors, or prints nothing and says what
    went wrong, with a code that is not zero. For the decode command the stage that fails first decides,
    and a strict run differs from a lenient one only in that it may fail. -/
theorem exit_law (setup : Setup) (invocation : Invocation) :
    let outcome := run setup invocation
    (outcome.exitCode = 0 ∧ outcome.stderr = ""
        ∨ ∃ e : CommandError,
            (invocation.request.lines setup (invocation.format.getD setup.defaultFormat)).1 = .error e
              ∧ e.exitCode ≠ 0 ∧ outcome.Fails e.exitCode e.message)
      ∧ ∀ request : DecodeRequest, invocation.request = .decode request →
          Staged setup invocation request := by
  intro outcome
  refine ⟨?_, fun request hrequest => staged hrequest⟩
  rcases hlines : invocation.request.lines setup (invocation.format.getD setup.defaultFormat)
    with ⟨e | lines, events⟩
  · have houtcome : outcome = .ofResult (.error e) _ := run_of_lines hlines
    rw [houtcome]
    exact .inr ⟨e, rfl, e.exitCode_ne_zero, Outcome.fails_ofResult e _⟩
  · have houtcome : outcome = .ofResult (.ok lines) _ := run_of_lines hlines
    rw [houtcome]
    exact .inl ⟨rfl, rfl⟩

/-- A unit and half of the next: a strict run for one unit is the lenient run, and one for two fails. -/
theorem exit_law_of_half_a_unit :
    let setup : Setup := { fileContent := fun _ => .error .endOfInput }
    let request (count : Nat) : DecodeRequest :=
      { tag := "INT", hex := ["05:00", "06"], count := some count, strict := true }
    let invocation (count : Nat) : Invocation :=
      { format := some .raw, logFormat := .text, verbosity := .upTo .trace
        request := .decode (request count) }
    (∀ count ∈ [1, 2], Tag.parse (request count).tag = .ok (Elementary.number .int).tag
        ∧ decodeInput setup (request count) = .ok [5, 0, 6])
      ∧ (run setup (invocation 1)).exitCode = 0
      ∧ run setup { invocation 1 with request := .decode { request 1 with strict := false } }
          = run setup (invocation 1)
      ∧ (run setup (invocation 2)).exitCode = 60 ∧ (run setup (invocation 2)).stdout = "" := by
  intro setup request invocation
  have hgiven : ∀ count ∈ [1, 2], Tag.parse (request count).tag = .ok (Elementary.number .int).tag
      ∧ decodeInput setup (request count) = .ok [5, 0, 6] := by
    decide
  obtain ⟨htagOne, hinputOne⟩ := hgiven 1 (by decide)
  obtain ⟨htagTwo, hinputTwo⟩ := hgiven 2 (by decide)
  have hone := (exit_law setup (invocation 1)).2 (request 1) rfl
  have htwo := (exit_law setup (invocation 2)).2 (request 2) rfl
  have hzero : (run setup (invocation 1)).exitCode = 0 := hone.units _ _ htagOne hinputOne (by decide)
  have hsixty : (run setup (invocation 2)).exitCode = 60 :=
    htwo.units _ _ htagTwo hinputTwo (by decide)
  refine ⟨hgiven, hzero, hone.strict rfl hzero, hsixty, ?_⟩
  rcases (exit_law setup (invocation 2)).1 with ⟨hcode, -⟩ | ⟨e, -, -, hfails⟩
  · rw [hsixty] at hcode
    cases hcode
  · exact hfails.2.1

/-! ## Tags that cannot be decoded -/

theorem defaultCount_pos (tag : Tag) (size : Nat) : 0 < defaultCount tag size := by
  unfold defaultCount
  split
  · exact Nat.zero_lt_one
  · exact Nat.lt_of_lt_of_le Nat.zero_lt_one (Nat.le_max_left _ _)

/-- **Tags that cannot be decoded.** The decode command refuses such a tag as a mistake of the caller,
    once the input is there, and prints nothing: for every count but zero, since it is the first unit that
    is refused. Asked for no unit, it reports none and succeeds. A run of a reader refuses the tag for
    every count. -/
theorem undecodable_law (σ : Type) [ByteSource σ] (setup : Setup) (invocation : Invocation)
    (request : DecodeRequest) (hrequest : invocation.request = .decode request) (tag : Tag)
    (htag : Tag.parse request.tag = .ok tag) (hnot : tag.isDecodable = false) (input : List UInt8)
    (hinput : decodeInput setup request = .ok input) :
    let outcome := run setup invocation
    (request.count ≠ some 0 →
        outcome.Fails 64 ("decode failed: " ++ UnsupportedTag.message ⟨tag⟩))
      ∧ (request.count = some 0 →
          outcome.exitCode = 0 ∧ outcome.stderr = ""
            ∧ outcome.stdout = unlines
                (Report.lines ⟨tag, input.length, 0, [], 0⟩ (invocation.format.getD setup.defaultFormat)))
      ∧ ∀ (reader : Reader σ) (count : Nat),
          reader.readUnits tag count = ⟨.error (.unsupported tag), reader, []⟩ := by
  intro outcome
  have hmake : ∀ count, Report.make tag input count request.strict = _ := fun count =>
    make_of_not_decodable hnot input count request.strict
  refine ⟨?_, ?_, ?_⟩
  · intro hsome
    -- the default count is never zero, so zero must have been asked for
    have hcount : request.count.getD (defaultCount tag input.length) ≠ 0 := by
      cases hgiven : request.count with
      | none => exact Nat.ne_of_gt (defaultCount_pos tag input.length)
      | some count => exact fun hzero => hsome (hgiven.trans (congrArg some hzero))
    have hrefused := (hmake _).trans (if_neg hcount)
    exact fails_of_decodeLines hrequest (decodeLines_of_error htag hinput rfl hrefused _)
  · intro hzero
    have hcount : request.count.getD (defaultCount tag input.length) = 0 := by
      rw [hzero]
      rfl
    have hempty := (hmake 0).trans (if_pos rfl)
    have houtcome : outcome = _ :=
      run_decode hrequest (decodeLines_of_report htag hinput hcount hempty _)
    rw [houtcome]
    exact ⟨rfl, rfl, rfl⟩
  · intro reader count
    unfold Reader.readUnits
    rw [hnot]
    rfl

/-- One byte under the tag of a structure. -/
theorem undecodable_law_of_one_byte :
    let setup : Setup := { fileContent := fun _ => .ok [0] }
    let request : DecodeRequest := { tag := "0xa0", file := some "unit.bin" }
    let invocation : Invocation :=
      { format := some .table, logFormat := .text, verbosity := .off, request := .decode request }
    let tag : Tag := ⟨0xA0⟩
    Tag.parse request.tag = .ok tag ∧ tag.isDecodable = false
      ∧ decodeInput setup request = .ok [0] ∧ request.count ≠ some 0
      ∧ (run setup invocation).exitCode = 64 ∧ (run setup invocation).stdout = ""
      ∧ (Reader.start (Cursor.ofBytes [0]) {}).readUnits tag 0
          = ⟨.error (.unsupported tag), Reader.start (Cursor.ofBytes [0]) {}, []⟩ := by
  intro setup request invocation tag
  have htag : Tag.parse request.tag = .ok tag := by decide
  have hnot : tag.isDecodable = false := by decide
  have hinput : decodeInput setup request = .ok [0] := rfl
  have hcount : request.count ≠ some 0 := by decide
  obtain ⟨hfails, -, hreader⟩ :=
    undecodable_law Cursor setup invocation request rfl tag htag hnot [0] hinput
  exact ⟨htag, hnot, hinput, hcount, (hfails hcount).1, (hfails hcount).2.1, hreader _ 0⟩

/-- A command line that asks for no unit of a structure succeeds, and prints a report. -/
theorem undecodable_tag_exits_zero :
    let setup : Setup := { fileContent := fun _ => .error .endOfInput }
    ∃ (invocation : Invocation) (request : DecodeRequest) (tag : Tag),
      Invocation.parse (fun _ => none)
          ["--log-level", "off", "decode", "Struct", "00", "--count", "0"] = .ok invocation
        ∧ invocation.request = .decode request
        ∧ Tag.parse request.tag = .ok tag ∧ tag.isDecodable = false
        ∧ decodeInput setup request = .ok [0]
        ∧ (run setup invocation).exitCode = 0 ∧ (run setup invocation).stdout ≠ "" := by
  intro setup
  let request : DecodeRequest := { tag := "Struct", hex := ["00"], count := some 0 }
  let invocation : Invocation :=
    { format := none, logFormat := .text, verbosity := .off, request := .decode request }
  refine ⟨invocation, request, ⟨0xA0⟩, ?_, rfl, ?_, ?_, ?_, ?_, ?_⟩
  · decide
  · decide
  · decide
  · decide
  · decide
  · decide

end CipUnits.Command
