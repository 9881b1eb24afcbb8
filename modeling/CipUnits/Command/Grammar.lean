import CipUnits.Text.Numeral

/-!
# `CipUnits.Command.Grammar` — what a command line may hold

A grammar lists the options, operands and commands of one level of a command line. Reading a level
takes its arguments in order, stops at a command, and leaves the rest of the line to the level of that
command.

## Contents
- `ValueForm`, `OptionSpec`, `Operand`, `Grammar` — the grammar.
- `Refusal` — why a command line is not carried out.
- `Scan` — the arguments read so far; `Grammar.scan` reads a level.
- `Grammar.finish` — adds what the environment says and checks what was given.

An option that takes its value from the next argument is judged when another argument, or the end of the
level, settles it. An argument that fits nothing is refused at once, whatever is still to be settled.
-/

namespace CipUnits.Command

/-! ## Grammars -/

/-- What the value of an option must look like. -/
inductive ValueForm where
  | nonempty
  /-- One of some names, written exactly so. -/
  | choice (names : List String)
  /-- A decimal numeral of at most 64 bits. -/
  | count
deriving DecidableEq, Repr

/-- What an option does. -/
inductive OptionKind where
  | flag
  | value (form : ValueForm)
  | help
  | version
deriving DecidableEq, Repr

/-- An option: `--name`, and `-c` for its short form. -/
structure OptionSpec where
  name : String
  short : Option Char := none
  kind : OptionKind
  /-- The environment variable that stands in for the option. -/
  environment : Option String := none
deriving DecidableEq, Repr

/-- An argument that is told by its place. -/
structure Operand where
  name : String
  required : Bool := true
  /-- Whether it takes all operands from its place on. -/
  repeated : Bool := false
deriving DecidableEq, Repr

/-- One level of a command line. -/
structure Grammar where
  options : List OptionSpec := []
  operands : List Operand := []
  /-- The commands that end the level; if there are any, one is required. -/
  commands : List String := []
  /-- Names of options and operands that exclude each other. -/
  exclusive : List (String × String) := []

/-! ## Refusals -/

/-- Why a command line is not carried out. -/
inductive Refusal where
  | valueMissing (option : String)
  | valueNotAllowed (option value : String)
  | valueMalformed (option value : String)
  | valueUnexpected (option value : String)
  | givenTwice (option : String)
  | exclusive (first second : String)
  | argumentUnknown (argument : String)
  | commandUnknown (argument : String)
  | operandMissing (operand : String)
  | commandMissing
  /-- The line is empty. -/
  | nothingGiven
  | helpAsked
  | versionAsked
deriving DecidableEq, Repr

/-- The exit code: asking for help or the version is no mistake. -/
def Refusal.exitCode : Refusal → Nat
  | helpAsked | versionAsked => 0
  | _ => 2

/-- The message of a refusal. -/
def Refusal.message : Refusal → String
  | valueMissing option => "a value is required for '--" ++ option ++ "'"
  | valueNotAllowed option value => "invalid value '" ++ value ++ "' for '--" ++ option ++ "'"
  | valueMalformed option value => "invalid value '" ++ value ++ "' for '--" ++ option ++ "'"
  | valueUnexpected option value => "unexpected value '" ++ value ++ "' for '--" ++ option ++ "'"
  | givenTwice option => "the option '--" ++ option ++ "' cannot be used twice"
  | exclusive first second => "'" ++ first ++ "' cannot be used with '" ++ second ++ "'"
  | argumentUnknown argument => "unexpected argument '" ++ argument ++ "'"
  | commandUnknown argument => "unrecognized command '" ++ argument ++ "'"
  | operandMissing operand => "the argument '" ++ operand ++ "' is required"
  | commandMissing | nothingGiven => "a command is required"
  | helpAsked => "usage: [options] <command> [arguments]"
  | versionAsked => "version"

/-- Whether a value has a form, and which refusal it is if not. -/
def ValueForm.check (option value : String) : ValueForm → Except Refusal Unit
  | nonempty => if value.isEmpty then .error (.valueMissing option) else .ok ()
  | choice names => if names.contains value then .ok () else .error (.valueNotAllowed option value)
  | count =>
      match Text.readNumeral? 10 (UInt64.size - 1) value.toList with
      | some _ => .ok ()
      | none => .error (.valueMalformed option value)

/-! ## Reading a level -/

/-- An option or operand that was given; a flag has no value. -/
structure Setting where
  name : String
  value : Option String
deriving DecidableEq, Repr

/-- Whether an option or operand is among the settings. -/
def isSet (name : String) (settings : List Setting) : Bool := settings.any (·.name == name)

/-- Judges an option with its value, given the settings before it. -/
def OptionSpec.judge (spec : OptionSpec) (value : Option String) (before : List Setting) :
    Except Refusal Setting :=
  match spec.kind, value with
  | .help, _ => .error .helpAsked
  | .version, _ => .error .versionAsked
  | .flag, _ => if isSet spec.name before then .error (.givenTwice spec.name) else .ok ⟨spec.name, value⟩
  | .value _, none => .error (.valueMissing spec.name)
  | .value form, some text =>
      if isSet spec.name before then .error (.givenTwice spec.name)
      else do
        form.check spec.name text
        return ⟨spec.name, value⟩

/-- A level of which some arguments are read. -/
structure Scan where
  /-- What is settled, the latest first. -/
  settled : List Setting := []
  /-- An option that is not settled yet, with its value if that is read. -/
  pending : Option (OptionSpec × Option String) := none
  /-- Whether all further arguments are operands. -/
  operandsOnly : Bool := false
  /-- The operands that may still come. -/
  operands : List Operand
deriving DecidableEq, Repr

namespace Scan

/-- Whether the next argument is the value of the pending option, unless it is an option itself. -/
def awaitsValue (scan : Scan) : Bool :=
  match scan.pending with
  | some (_, none) => true
  | _ => false

/-- Settles the pending option. -/
def settle (scan : Scan) : Except Refusal Scan :=
  match scan.pending with
  | none => .ok scan
  | some (spec, value) => do
      let setting ← spec.judge value scan.settled
      return { scan with settled := setting :: scan.settled, pending := none }

/-- Settles the pending option and then another one. -/
def settleWith (spec : OptionSpec) (value : Option String) (scan : Scan) : Except Refusal Scan := do
  let scan ← scan.settle
  let setting ← spec.judge value scan.settled
  return { scan with settled := setting :: scan.settled }

/-- Settles the pending option and lets another one wait for its value. -/
def await (spec : OptionSpec) (scan : Scan) : Except Refusal Scan := do
  let scan ← scan.settle
  return { scan with pending := some (spec, none) }

/-- Takes an argument as the value the pending option waits for. -/
def takeValue (argument : String) (scan : Scan) : Scan :=
  { scan with pending := scan.pending.map fun (spec, _) => (spec, some argument) }

end Scan

namespace Grammar

/-- Takes an argument as an operand. Where commands are expected an argument that is none is taken for a
    misspelt one, but behind `--` even the name of a command is only an argument too many. -/
def scanOperand (grammar : Grammar) (argument : String) (scan : Scan) : Except Refusal Scan :=
  match scan.operands with
  | [] =>
      if grammar.commands.isEmpty || (scan.operandsOnly && grammar.commands.contains argument) then
        .error (.argumentUnknown argument)
      else .error (.commandUnknown argument)
  | operand :: later => do
      let scan ← scan.settle
      return { scan with
        settled := ⟨operand.name, some argument⟩ :: scan.settled
        operands := if operand.repeated then operand :: later else later }

/-- Takes an option by its name, with the value behind its equals sign if there is one. -/
def scanLong (grammar : Grammar) (name : String) (attached : Option String) (scan : Scan) :
    Except Refusal Scan :=
  match grammar.options.find? (·.name == name) with
  | none => .error (.argumentUnknown ("--" ++ name))
  | some spec =>
      match spec.kind, attached with
      | .value _, some value => scan.settleWith spec (some value)
      | .value _, none => scan.await spec
      | _, some value => .error (.valueUnexpected name value)
      | _, none => scan.settleWith spec none

/-- Takes a cluster of options by their characters. One that has a value takes the rest of the cluster
    for it, without an equals sign in front, or waits for it if there is no rest. -/
def scanShort (grammar : Grammar) : List Char → Scan → Except Refusal Scan
  | [], scan => .ok scan
  | c :: cluster, scan =>
      match grammar.options.find? (·.short == some c) with
      | none => .error (.argumentUnknown (String.ofList ['-', c]))
      | some spec =>
          match spec.kind, cluster with
          | .value _, [] => scan.await spec
          | .value _, '=' :: value => scan.settleWith spec (some (String.ofList value))
          | .value _, value => scan.settleWith spec (some (String.ofList value))
          | _, _ => do scanShort grammar cluster (← scan.settleWith spec none)

/-- Takes one argument that is no command. -/
def scanArgument (grammar : Grammar) (argument : String) (scan : Scan) : Except Refusal Scan :=
  if scan.operandsOnly then grammar.scanOperand argument scan
  else match argument.toList with
    | ['-', '-'] => .ok { scan with operandsOnly := true }
    | '-' :: '-' :: text =>
        let name := text.takeWhile (· != '=')
        let attached := match text.dropWhile (· != '=') with
          | [] => none
          | _ :: value => some (String.ofList value)
        grammar.scanLong (String.ofList name) attached scan
    | '-' :: c :: cluster => grammar.scanShort (c :: cluster) scan
    | _ => if scan.awaitsValue then .ok (scan.takeValue argument) else grammar.scanOperand argument scan

/-- Reads arguments up to a command or the end. A command comes back with the arguments behind it. -/
def scan (grammar : Grammar) :
    List String → Scan → Except Refusal (Scan × Option (String × List String))
  | [], scan => .ok (scan, none)
  | argument :: arguments, scan =>
      if !scan.operandsOnly && !scan.awaitsValue && grammar.commands.contains argument then
        .ok (scan, some (argument, arguments))
      else do
        let next ← grammar.scanArgument argument scan
        Grammar.scan grammar arguments next

/-- Reads a level from its first argument on. -/
def read (grammar : Grammar) (arguments : List String) :
    Except Refusal (Scan × Option (String × List String)) :=
  grammar.scan arguments { operands := grammar.operands }

end Grammar

/-! ## Finishing a level -/

/-- Where a setting comes from. -/
inductive Origin where
  /-- It was not made, so that the standard applies. -/
  | standard
  | environment
  | commandLine
deriving DecidableEq, Repr

/-- The weight of an origin; a heavier one outweighs the lighter. -/
def Origin.weight : Origin → Nat
  | standard => 0
  | environment => 1
  | commandLine => 2

/-- The settings of a level that is read to its end, each list with the latest first. -/
structure Given where
  commandLine : List Setting
  environment : List Setting
deriving DecidableEq, Repr

namespace Given

/-- Whether an option or operand stands in the command line. -/
def has (given : Given) (name : String) : Bool := isSet name given.commandLine

/-- Where the setting of an option comes from. -/
def origin (given : Given) (name : String) : Origin :=
  if isSet name given.commandLine then .commandLine
  else if isSet name given.environment then .environment
  else .standard

/-- The values of an option or operand, in the order in which they were given. -/
def values (given : Given) (name : String) : List String :=
  ((given.commandLine ++ given.environment).filter (·.name == name)).reverse.filterMap (·.value)

/-- The value of an option, or of an operand that is not repeated. -/
def value? (given : Given) (name : String) : Option String := (given.values name).head?

/-- Whether nothing was given at all. -/
def isEmpty (given : Given) : Bool :=
  given.commandLine.isEmpty && given.environment.isEmpty

end Given

namespace Grammar

/-- The settings that the environment makes for options that the command line does not give. -/
def fromEnvironment (environment : String → Option String) (given : List Setting) :
    List OptionSpec → Except Refusal (List Setting)
  | [] => .ok []
  | spec :: specs =>
      match spec.environment.bind environment with
      | none => fromEnvironment environment given specs
      | some text =>
          if isSet spec.name given then fromEnvironment environment given specs
          else do
            let setting ← spec.judge (some text) []
            let later ← fromEnvironment environment given specs
            return setting :: later

/-- Options and operands that exclude each other must not both be given. -/
def checkExclusive (grammar : Grammar) (given : Given) : Except Refusal Unit :=
  match grammar.exclusive.find? fun (a, b) => given.has a && given.has b with
  | some (a, b) => .error (.exclusive a b)
  | none => .ok ()

/-- Each required operand must be given. -/
def checkRequired (grammar : Grammar) (given : Given) : Except Refusal Unit :=
  match grammar.operands.find? fun operand => operand.required && !given.has operand.name with
  | some operand => .error (.operandMissing operand.name)
  | none => .ok ()

/-- Settles the pending option, adds what the environment says and checks the whole. A level that expects
    a command has one if `hasCommand`. -/
def finish (grammar : Grammar) (environment : String → Option String) (hasCommand : Bool) (scan : Scan) :
    Except Refusal Given := do
  let scan ← scan.settle
  let fromEnvironment ← fromEnvironment environment scan.settled grammar.options
  let given : Given := ⟨scan.settled, fromEnvironment⟩
  if !grammar.commands.isEmpty && !hasCommand then
    .error (if given.isEmpty then .nothingGiven else .commandMissing)
  else do
    grammar.checkExclusive given
    grammar.checkRequired given
    return given

end Grammar

end CipUnits.Command
