import CipUnits.Command.Failing
import CipUnits.Command.Invocation
import CipUnits.Source.Cursor
import CipUnits.Text.Grid

/-!
# `CipUnits.Command.Report` — what the commands print

## Contents
- `Report` — the units decoded from an input, row by row; `Report.collect` decodes them and looks up
  their faults on record, `Report.make` draws up the report.
- `Report.lines` — the report in each form of output.
- `typeLines`, `classificationLines`, `versionLines` — the other commands.
-/

namespace CipUnits.Command

/-! ## Decoded units -/

/-- A unit that was decoded from an input. -/
structure Report.Row where
  index : Nat
  /-- The number of bytes taken before it. -/
  offset : Nat
  value : Value
  fault? : Option Fault
deriving DecidableEq

/-- The units decoded from an input of known size. -/
structure Report where
  tag : Tag
  inputSize : Nat
  consumed : Nat
  rows : List Report.Row
  /-- The number of faults met. -/
  faults : Nat

/-- How many units to decode where the caller does not say: every complete one, and at least one, so
    that an empty input shows its fault. -/
def defaultCount (tag : Tag) (inputSize : Nat) : Nat :=
  if tag.payloadSize = 0 then 1 else max 1 (inputSize / tag.payloadSize)

/-- Decodes up to `count` units of a tag to rows, of which the first has an index. The fault of a unit is
    the one that stands on record behind those that stood there before the unit. -/
def Report.collect (tag : Tag) : (count index : Nat) → Reader Cursor → Reader.Outcome Cursor (List Row)
  | 0, _, reader => ⟨.ok [], reader, []⟩
  | count + 1, index, reader =>
      let faultsBefore := reader.record.kept.size
      let one := reader.readUnit tag
      match one.answer with
      | .error e => { one with answer := .error e }
      | .ok value =>
          let row : Row := ⟨index, reader.consumed, value, one.reader.record.kept[faultsBefore]?⟩
          if one.reader.exhausted then { one with answer := .ok [row] }
          else
            let more := collect tag count (index + 1) one.reader
            ⟨more.answer.map (row :: ·), more.reader, one.events ++ more.events⟩

/-- Decodes units of a tag from an input, with the events on the way. -/
def Report.make (tag : Tag) (input : List UInt8) (count : Nat) (strict : Bool) :
    Except ReadError Report × List Event :=
  let run := Report.collect tag count 0 { source := Cursor.ofBytes input, settings := { strict } }
  (run.answer.map fun rows =>
      { tag, inputSize := input.length, consumed := run.reader.consumed, rows
        faults := run.reader.record.total },
    run.events)

namespace Report

/-- One unit as JSON. -/
def Row.json (row : Row) : Json :=
  .object
    [("index", .integer row.index), ("offset", .integer row.offset), ("value", row.value.json),
      ("kind", .string row.value.kind.name),
      ("fault", (row.fault?.map fun fault => Json.string fault.message).getD .null)]

/-- The report as JSON. -/
def json (report : Report) : Json :=
  .object
    [("tag", .string report.tag.name), ("label", .string report.tag.label),
      ("unit_size", .integer report.tag.payloadSize), ("input_size", .integer report.inputSize),
      ("bytes_consumed", .integer report.consumed), ("units", .array (report.rows.map Row.json)),
      ("faults", .integer report.faults)]

/-- The report as a table. -/
def grid (report : Report) : Text.Grid :=
  { heading := ["#", "OFFSET", "VALUE", "KIND", "FAULT"]
    rows := report.rows.map fun row =>
      [Nat.repr row.index, Nat.repr row.offset, row.value.json.text, row.value.kind.name,
        (row.fault?.map Fault.message).getD ""] }

/-- One unit as a line for people. -/
def prettyLine (tag : Tag) (row : Row) : String :=
  "[" ++ Nat.repr row.index ++ "] @" ++ Nat.repr row.offset ++ " " ++ tag.label ++ " = "
    ++ row.value.json.text
    ++ (row.fault?.map fun fault => " (fault: " ++ fault.message ++ ")").getD ""

/-- The report in a form of output. -/
def lines (report : Report) : Format → List String
  | .json => [report.json.text]
  | .table => report.tag.label :: report.grid.lines
  | .pretty => report.rows.map (prettyLine report.tag)
  | .raw => report.rows.map fun row => row.value.json.text

end Report

/-! ## The tag table -/

/-- A text filled up with spaces to a width in characters. -/
def padRight (width : Nat) (text : String) : String :=
  text ++ String.ofList (List.replicate (width - text.length) ' ')

/-- A row of the tag table as JSON. -/
def typeJson (tag : Tag) : Json :=
  .object
    [("code", .integer tag.code.toNat), ("hex", .string tag.hexCode), ("name", .string tag.name),
      ("size", .integer tag.size), ("payload_size", .integer tag.payloadSize),
      ("decodable", .bool tag.isDecodable), ("label", .string tag.label)]

/-- The tag table in a form of output, of all tags or of those that can be decoded. -/
def typeLines (decodable : Bool) (format : Format) : List String :=
  let tags := Tag.all.filter fun tag => !decodable || tag.isDecodable
  match format with
  | .json => [(Json.array (tags.map typeJson)).text]
  | .table =>
      Text.Grid.lines
        { heading := ["CODE", "NAME", "SIZE", "PAYLOAD", "DECODABLE"]
          rows := tags.map fun tag =>
            [tag.hexCode, tag.name, Nat.repr tag.size, Nat.repr tag.payloadSize,
              (Json.bool tag.isDecodable).text] }
  | .pretty =>
      tags.map fun tag =>
        padRight 16 tag.label ++ " size=" ++ padRight 3 (Nat.repr tag.size) ++ " payload="
          ++ Nat.repr tag.payloadSize
  | .raw => tags.map Tag.label

/-! ## Classification -/

/-- The tag of a native kind in a form of output. -/
def classificationLines (kind : NativeKind) (format : Format) : List String :=
  let tag := kind.tag
  match format with
  | .json =>
      [Json.text (.object
        [("kind", .string kind.name), ("code", .integer tag.code.toNat), ("tag", .string tag.name),
          ("label", .string tag.label), ("mapped", .bool (tag != Tag.unknown))])]
  | .table => Text.Grid.lines { heading := ["KIND", "TAG"], rows := [[kind.name, tag.label]] }
  | .pretty => [kind.name ++ " -> " ++ tag.label]
  | .raw => [tag.name]

/-! ## Version -/

/-- The name of the program. -/
def programName : String := "cipwire"

/-- The version of the program. -/
def programVersion : String := "0.1.0"

/-- What is known of the build of the program. -/
structure Build where
  target : String := "unknown"
  targetOs : String := "unknown"
  targetArch : String := "unknown"
  compiler : String := "unknown"
  revision : String := "unknown"

/-- The version, with the facts of the build if they are asked for. -/
def versionLines (build : Build) (extended : Bool) : List String :=
  if extended then
    ["name: " ++ programName, "version: " ++ programVersion, "target: " ++ build.target,
      "target_os: " ++ build.targetOs, "target_arch: " ++ build.targetArch, "rustc: " ++ build.compiler,
      "git_hash: " ++ build.revision, "tags: " ++ Nat.repr Tag.all.length]
  else [programName ++ " " ++ programVersion]

end CipUnits.Command
