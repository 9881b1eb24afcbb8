import CipUnits.Command.Grammar
import CipUnits.Log

/-!
# `CipUnits.Command.Invocation` — the command line and what it asks for

## Contents
- `Format`, `LogFormat` — the choices of output.
- `Request` and `Invocation` — what a command line asks for.
- `Verb`, the commands; `topLevel` and `Verb.level`, the grammars of the line and of each command.
- `Invocation.parse` — the reading of a whole line. The level of the command is finished before the
  level around it, and options for both levels count where they weigh more, the inner level on a par.
-/

namespace CipUnits.Command

/-! ## Requests -/

/-- The forms of output. -/
inductive Format where
  | json | table | pretty | raw
deriving DecidableEq, Repr

/-- All forms of output. -/
def Format.all : List Format := [json, table, pretty, raw]

/-- The name of a form of output. -/
def Format.name : Format → String
  | json => "json"
  | table => "table"
  | pretty => "pretty"
  | raw => "raw"

/-- The form of output of a name, written exactly so. -/
def Format.ofName? (name : String) : Option Format := all.find? (·.name == name)

/-- The forms in which the log is written. -/
inductive LogFormat where
  | text | json
deriving DecidableEq, Repr

/-- All forms of the log. -/
def LogFormat.all : List LogFormat := [text, json]

/-- The name of a form of the log. -/
def LogFormat.name : LogFormat → String
  | text => "text"
  | json => "json"

/-- The form of the log of a name, written exactly so. -/
def LogFormat.ofName? (name : String) : Option LogFormat := all.find? (·.name == name)

/-- A request to decode units. -/
structure DecodeRequest where
  tag : String
  hex : List String := []
  file : Option String := none
  count : Option Nat := none
  strict : Bool := false
deriving DecidableEq, Repr

/-- What a command asks for. -/
inductive Request where
  | types (decodable : Bool)
  | decode (request : DecodeRequest)
  | classify (kind : String)
  | version (extended : Bool)
deriving DecidableEq, Repr

/-- What a command line asks for, and in which form. -/
structure Invocation where
  /-- The form of the output, if the line says it. -/
  format : Option Format
  logFormat : LogFormat
  verbosity : Verbosity
  request : Request
deriving DecidableEq, Repr

/-! ## Grammars -/

/-- The option that asks for help. -/
def helpOption : OptionSpec := { name := "help", short := some 'h', kind := .help }

/-- The options that stand before or behind the command. -/
def sharedOptions : List OptionSpec :=
  [{ name := "format", kind := .value (.choice (Format.all.map Format.name)) },
    { name := "log-format", kind := .value (.choice (LogFormat.all.map LogFormat.name)),
      environment := some "CIPWIRE_LOG_FORMAT" },
    { name := "log-level", kind := .value (.choice (Verbosity.all.map Verbosity.name)),
      environment := some "CIPWIRE_LOG_LEVEL" }]

/-- The commands that do something. -/
inductive Verb where
  | types | decode | classify | version
deriving DecidableEq, Repr

/-- All commands that do something. -/
def Verb.all : List Verb := [types, decode, classify, version]

/-- The name of a command. -/
def Verb.name : Verb → String
  | types => "types"
  | decode => "decode"
  | classify => "classify"
  | version => "version"

/-- The command of a name, written exactly so. -/
def Verb.ofName? (name : String) : Option Verb := all.find? (·.name == name)

/-- The command that explains the others. -/
def helpCommand : String := "help"

/-- The level around the command. -/
def topLevel : Grammar :=
  { options := sharedOptions ++ [helpOption, { name := "version", short := some 'V', kind := .version }]
    commands := Verb.all.map Verb.name ++ [helpCommand] }

/-- The level of a command. -/
def Verb.level (verb : Verb) : Grammar :=
  let common := sharedOptions ++ [helpOption]
  match verb with
  | types => { options := { name := "decodable", kind := .flag } :: common }
  | decode =>
      { options :=
          [{ name := "file", kind := .value .nonempty },
            { name := "count", short := some 'n', kind := .value .count },
            { name := "strict", kind := .flag }] ++ common
        operands := [{ name := "tag" }, { name := "hex", required := false, repeated := true }]
        exclusive := [("hex", "file")] }
  | classify => { options := common, operands := [{ name := "kind" }] }
  | version => { options := { name := "extended", kind := .flag } :: common }

/-! ## Reading -/

/-- The request that the settings of a command make. -/
def Request.ofGiven (given : Given) : Verb → Request
  | .types => .types (given.has "decodable")
  | .decode =>
      .decode
        { tag := (given.value? "tag").getD ""
          hex := given.values "hex"
          file := given.value? "file"
          count := (given.value? "count").bind fun text => Text.readNumeral? 10 (UInt64.size - 1) text.toList
          strict := given.has "strict" }
  | .classify => .classify ((given.value? "kind").getD "")
  | .version => .version (given.has "extended")

/-- The value of an option for both levels: that of greater weight, the inner one on a par. -/
def sharedValue? (name : String) (outer inner : Given) : Option String :=
  if (outer.origin name).weight ≤ (inner.origin name).weight then inner.value? name
  else outer.value? name

/-- The invocation that the settings of both levels make. -/
def Invocation.ofGiven (verb : Verb) (outer inner : Given) : Invocation :=
  { format := (sharedValue? "format" outer inner).bind Format.ofName?
    logFormat := ((sharedValue? "log-format" outer inner).bind LogFormat.ofName?).getD .text
    verbosity := ((sharedValue? "log-level" outer inner).bind Verbosity.ofName?).getD (.upTo .warn)
    request := Request.ofGiven inner verb }

/-- The answer to a request for help on the commands named: each name but the first would be a command
    of the one before, and no command has any. -/
def helpOn : List String → Refusal
  | [] => .helpAsked
  | name :: names =>
      if topLevel.commands.contains name then
        match names with
        | [] => .helpAsked
        | second :: _ => .commandUnknown second
      else .commandUnknown name

/-- Reads a whole command line. The one command that does nothing else asks for help. -/
def Invocation.parse (environment : String → Option String) (arguments : List String) :
    Except Refusal Invocation := do
  let (scan, command?) ← topLevel.read arguments
  match command? with
  | none =>
      -- without a command the level cannot be finished
      let _ ← topLevel.finish environment false scan
      .error .commandMissing
  | some (command, rest) =>
      match Verb.ofName? command with
      | none => .error (helpOn rest)
      | some verb => do
          let (innerScan, _) ← verb.level.read rest
          let inner ← verb.level.finish environment false innerScan
          let outer ← topLevel.finish environment true scan
          return .ofGiven verb outer inner

end CipUnits.Command
