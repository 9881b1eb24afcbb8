import CipUnits.Command.Run

/-!
# `CipUnits.Main` — the program

Reads the arguments, the environment and the file they name, sees where the output goes, and hands
everything on to `CipUnits.Command.run`.
-/

namespace CipUnits

open Command

/-- The failure of an attempt to open or read a file. -/
def failureOfIO (e : IO.Error) : Failure :=
  match e with
  | .noFileOrDirectory .. => Directory.noSuchFile
  | .permissionDenied .. => ⟨.permissionDenied, "Permission denied (os error 13)"⟩
  | .inappropriateType .. => Directory.notADirectory
  | _ => ⟨.other "other", toString e⟩

/-- The content of a file. -/
def readFile (path : String) : IO (Except Failure (List UInt8)) := do
  try return .ok (← IO.FS.readBinFile path).toList
  catch e => return .error (failureOfIO e)

/-- The content of a field as JSON. -/
def fieldJson : FieldValue → Json
  | .text s => .string s
  | .flag b => .bool b

/-- An event as a line of the log. -/
def logLine (event : Event) : LogFormat → String
  | .json =>
      Json.text (.object
        ([("level", .string event.level.name), ("message", .string event.message)]
          ++ event.fields.map fun (name, value) => (name, fieldJson value)))
  | .text =>
      event.fields.foldl (fun line (name, value) => line ++ " " ++ name ++ "=" ++ (fieldJson value).text)
        (event.level.name ++ " " ++ event.message)

/-- Carries out the command line and gives the exit code. -/
def runProgram (arguments : List String) : IO UInt32 := do
  let names := sharedOptions.filterMap (·.environment)
  let values ← names.mapM fun name => do return (name, ← IO.getEnv name)
  let environment := fun name => (values.find? (·.1 == name)).bind (·.2)
  match Invocation.parse environment arguments with
  | .error .versionAsked =>
      IO.println (programName ++ " " ++ programVersion)
      return 0
  | .error .helpAsked =>
      IO.println Refusal.helpAsked.message
      return 0
  | .error refusal =>
      IO.eprintln refusal.message
      return refusal.exitCode.toUInt32
  | .ok invocation =>
      let content ← match invocation.request with
        | .decode { file := some path, .. } => readFile path
        | _ => pure (.error Directory.noSuchFile)
      let terminal ← (← IO.getStdout).isTty
      let outcome := run { fileContent := fun _ => content, terminal } invocation
      for event in outcome.events do
        IO.eprintln (logLine event invocation.logFormat)
      IO.print outcome.stdout
      IO.eprint outcome.stderr
      return outcome.exitCode.toUInt32

end CipUnits

/-- The entry point of the program. -/
def main (arguments : List String) : IO UInt32 := CipUnits.runProgram arguments
