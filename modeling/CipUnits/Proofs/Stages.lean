import CipUnits.Command.Run

/-!
# `CipUnits.Proofs.Stages` — where a command line ends

A command comes to lines or to an error, and the outcome of the run is one or the other, never parts of
both. The decode command gets there in stages, each of which needs what the one before it found: the tag,
the bytes, the units. The stage that fails first decides; here is one equation for each.

## Contents
- **Outcomes.** `CommandError.exitCode_ne_zero` and `Cause.exitCode_file`; `run_of_lines`.
- **The decode command.** `run_decode`; `decodeLines_congr`, what the lines depend on;
  `decodeLines_of_unknown`, `decodeLines_of_unreadable`, `decodeLines_of_error` and
  `decodeLines_of_report`, stage by stage, with both ways in which the input fails.
-/

namespace CipUnits.Command

/-! ## Outcomes -/

/-- No error passes for a success. -/
theorem CommandError.exitCode_ne_zero (e : CommandError) : e.exitCode ≠ 0 := by
  unfold exitCode Cause.exitCode
  split
  · decide
  · decide
  · decide
  · decide
  · decide
  · split <;> decide

/-- A missing file and a forbidden one have codes of their own. -/
theorem Cause.exitCode_file (failure : Failure) :
    (Cause.file failure).exitCode = match failure.kind with
      | .notFound => 1
      | .permissionDenied => 50
      | _ => 125 := by
  obtain ⟨kind, message⟩ := failure
  cases kind <;> rfl

/-- An outcome is made of what the command comes to and of the events that are kept. -/
theorem run_of_lines {setup : Setup} {invocation : Invocation}
    {result : Except CommandError (List String)} {events : List Event}
    (h : invocation.request.lines setup (invocation.format.getD setup.defaultFormat) = (result, events)) :
    run setup invocation = .ofResult result
      (invocation.verbosity.filter (.started invocation.verbosity.showsFaults :: events)) := by
  unfold run
  dsimp only
  rw [h]

/-! ## The decode command -/

section

variable {setup : Setup} {request : DecodeRequest}

/-- The outcome of a decode command is made of its lines. -/
theorem run_decode {invocation : Invocation} (hrequest : invocation.request = .decode request)
    {result : Except CommandError (List String)} {events : List Event}
    (h : decodeLines setup request (invocation.format.getD setup.defaultFormat) = (result, events)) :
    run setup invocation = .ofResult result
      (invocation.verbosity.filter (.started invocation.verbosity.showsFaults :: events)) := by
  refine run_of_lines ?_
  rw [hrequest]
  exact h

/-- The lines depend on where the input comes from by nothing but the input. -/
theorem decodeLines_congr {other : DecodeRequest} (htag : request.tag = other.tag)
    (hcount : request.count = other.count) (hstrict : request.strict = other.strict)
    (hinput : decodeInput setup request = decodeInput setup other) (format : Format) :
    decodeLines setup request format = decodeLines setup other format := by
  unfold decodeLines
  rw [htag, hinput, hcount, hstrict]

/-- A text that names no tag is judged before anything else. -/
theorem decodeLines_of_unknown {e : UnknownTag} (htag : Tag.parse request.tag = .error e)
    (format : Format) :
    decodeLines setup request format = (.error ⟨some "invalid tag", .tag e⟩, []) := by
  unfold decodeLines
  rw [htag]

variable {tag : Tag} (htag : Tag.parse request.tag = .ok tag)

include htag

/-- Behind the tag, an input that is not there is judged before any unit. -/
theorem decodeLines_of_unreadable {e : CommandError} (hinput : decodeInput setup request = .error e)
    (format : Format) : decodeLines setup request format = (.error e, []) := by
  unfold decodeLines
  rw [htag, hinput]

variable {input : List UInt8} (hinput : decodeInput setup request = .ok input) {count : Nat}
  (hcount : request.count.getD (defaultCount tag input.length) = count)

include hinput hcount

/-- Behind the tag and the input, it is the units that are left to fail. -/
theorem decodeLines_of_error {e : ReadError} {events : List Event}
    (hmake : Report.make tag input count request.strict = (.error e, events)) (format : Format) :
    decodeLines setup request format = (.error ⟨some "decode failed", .read e⟩, events) := by
  unfold decodeLines
  rw [htag, hinput]
  dsimp only
  rw [hcount, hmake]

/-- Behind the tag, the input and the units, nothing is left to fail. -/
theorem decodeLines_of_report {report : Report} {events : List Event}
    (hmake : Report.make tag input count request.strict = (.ok report, events)) (format : Format) :
    decodeLines setup request format = (.ok (report.lines format), events) := by
  unfold decodeLines
  rw [htag, hinput]
  dsimp only
  rw [hcount, hmake]

omit htag hinput hcount

/-- A file that cannot be read is no input, whatever else the arguments spell. -/
theorem decodeInput_of_unreadable {path : String} {failure : Failure} (hfile : request.file = some path)
    (hcontent : setup.fileContent path = .error failure) :
    decodeInput setup request = .error ⟨some ("failed reading " ++ path), .file failure⟩ := by
  unfold decodeInput
  rw [hfile]
  dsimp only
  rw [hcontent]
  rfl

/-- Without a file, digits that do not read as bytes are no input. -/
theorem decodeInput_of_malformed {e : HexDump.Error} (hfile : request.file = none)
    (hhex : HexDump.read (" ".intercalate request.hex).toList = .error e) :
    decodeInput setup request = .error ⟨none, .hex e⟩ := by
  unfold decodeInput
  rw [hfile]
  dsimp only
  rw [hhex]
  rfl

end

end CipUnits.Command
