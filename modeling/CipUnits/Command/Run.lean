import CipUnits.Command.Directory
import CipUnits.Command.Report

/-!
# `CipUnits.Command.Run` — carrying out a command line

A command either succeeds and prints, or fails with a message and prints nothing. The events of a run
are kept according to the verbosity asked for.

## Contents
- `Setup` — what a run finds around it; `Setup.defaultFormat`, the form of output it calls for.
- `decodeInput`, `decodeLines` — the decode command, stage by stage.
- `Outcome` — exit code, output and events; `run` carries out an invocation.
-/

namespace CipUnits.Command

/-- What a run finds around it. -/
structure Setup where
  /-- The content of the file at a path. -/
  fileContent : String → Except Failure (List UInt8)
  build : Build := {}
  /-- Whether the output goes to a terminal, which is then as wide as any table. -/
  terminal : Bool := false

/-- The form of output where none is asked for: a table for people, JSON for programs. -/
def Setup.defaultFormat (setup : Setup) : Format := if setup.terminal then .table else .json

/-- The bytes to decode: those of the file if one is named, else those that the arguments spell. -/
def decodeInput (setup : Setup) (request : DecodeRequest) : Except CommandError (List UInt8) :=
  match request.file with
  | some path =>
      (setup.fileContent path).mapError fun failure => ⟨some ("failed reading " ++ path), .file failure⟩
  | none => (HexDump.read (" ".intercalate request.hex).toList).mapError fun e => ⟨none, .hex e⟩

/-- The lines of the decode command, with the events on the way. The tag is judged before the input, and
    the input before any unit of it. -/
def decodeLines (setup : Setup) (request : DecodeRequest) (format : Format) :
    Except CommandError (List String) × List Event :=
  match Tag.parse request.tag with
  | .error e => (.error ⟨some "invalid tag", .tag e⟩, [])
  | .ok tag =>
      match decodeInput setup request with
      | .error e => (.error e, [])
      | .ok input =>
          let count := request.count.getD (defaultCount tag input.length)
          match Report.make tag input count request.strict with
          | (.error e, events) => (.error ⟨some "decode failed", .read e⟩, events)
          | (.ok report, events) => (.ok (report.lines format), events)

/-- The lines of a request, with the events on the way. -/
def Request.lines (setup : Setup) (format : Format) :
    Request → Except CommandError (List String) × List Event
  | types decodable => (.ok (typeLines decodable format), [])
  | decode request => decodeLines setup request format
  | classify name =>
      match NativeKind.ofName? name with
      | some kind => (.ok (classificationLines kind format), [])
      | none => (.error ⟨none, .kind name⟩, [])
  | version extended => (.ok (versionLines setup.build extended), [])

/-- What a run leaves behind. -/
structure Outcome where
  exitCode : Nat
  stdout : String
  stderr : String
  events : List Event

/-- Lines of text, each with its end. -/
def unlines (lines : List String) : String := String.join (lines.map (· ++ "\n"))

/-- The outcome of a command that succeeded or failed. -/
def Outcome.ofResult (result : Except CommandError (List String)) (events : List Event) : Outcome :=
  match result with
  | .ok lines => ⟨0, unlines lines, "", events⟩
  | .error e => ⟨e.exitCode, "", "error: " ++ e.message ++ "\n", events⟩

/-- Carries out an invocation. -/
def run (setup : Setup) (invocation : Invocation) : Outcome :=
  let format := invocation.format.getD setup.defaultFormat
  let (result, events) := invocation.request.lines setup format
  .ofResult result
    (invocation.verbosity.filter (.started invocation.verbosity.showsFaults :: events))

end CipUnits.Command
