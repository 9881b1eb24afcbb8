import CipUnits.Decode
import CipUnits.Value.Text

/-!
# `CipUnits.Log` — what a run reports of itself

Every noteworthy step of a run is an event. An event has a level, a message and named fields; how many
of the events are kept is set by a verbosity.

## Contents
- `Level`, `Verbosity` and which levels a verbosity keeps.
- `Event` — the events there are, with `level`, `message` and `fields`.
-/

namespace CipUnits

/-! ## Levels -/

/-- How serious an event is, the most serious first. -/
inductive Level where
  | error | warn | info | debug | trace
deriving DecidableEq, Repr

/-- The place of a level in the order, the most serious first. -/
def Level.rank : Level → Nat
  | error => 1
  | warn => 2
  | info => 3
  | debug => 4
  | trace => 5

/-- The name of a level. -/
def Level.name : Level → String
  | error => "ERROR"
  | warn => "WARN"
  | info => "INFO"
  | debug => "DEBUG"
  | trace => "TRACE"

/-- Which events are kept: none, or all down to a level. -/
inductive Verbosity where
  | off
  | upTo (level : Level)
deriving DecidableEq, Repr

namespace Verbosity

/-- All verbosities, from the least on. -/
def all : List Verbosity := [off, upTo .error, upTo .warn, upTo .info, upTo .debug, upTo .trace]

/-- The name of a verbosity. -/
def name : Verbosity → String
  | off => "off"
  | upTo .error => "error"
  | upTo .warn => "warn"
  | upTo .info => "info"
  | upTo .debug => "debug"
  | upTo .trace => "trace"

/-- The verbosity of a name, written exactly so. -/
def ofName? (name : String) : Option Verbosity := all.find? (·.name == name)

/-- Whether events of a level are kept. -/
def keeps : Verbosity → Level → Bool
  | off, _ => false
  | upTo last, level => level.rank ≤ last.rank

/-- Whether faults, which are warnings, are kept. -/
def showsFaults (verbosity : Verbosity) : Bool := verbosity.keeps .warn

end Verbosity

/-! ## Events -/

/-- The content of a field. -/
inductive FieldValue where
  | text (s : String)
  | flag (b : Bool)

/-- The events of a run. -/
inductive Event where
  /-- A unit of a tag that cannot be decoded was asked for. -/
  | refused (tag : Tag)
  /-- A unit was not read. -/
  | fault (fault : Fault)
  /-- A unit was read. -/
  | unit (value : Value)
  /-- A run of units came to an end with this many faults on record. -/
  | run (tag : Tag) (count faults : Nat)
  /-- Logging began. -/
  | started (showsFaults : Bool)
deriving DecidableEq

namespace Event

/-- The level of an event. -/
def level : Event → Level
  | refused _ => .error
  | fault _ => .warn
  | unit _ => .trace
  | run _ _ _ => .debug
  | started _ => .debug

/-- The message of an event. -/
def message : Event → String
  | refused _ => "refusing to decode unsupported tag"
  | fault f => f.message
  | unit _ => "decoded unit"
  | run _ _ _ => "decoded unit run"
  | started _ => "logging initialized"

/-- The named fields of an event. -/
def fields : Event → List (String × FieldValue)
  | refused tag => [("tag", .text tag.label)]
  | fault f => [("tag", .text f.tag.label), ("error", .text f.failure.message)]
  | unit value => [("tag", .text value.tag.label), ("value", .text value.display)]
  | run tag count faults =>
      [("tag", .text tag.label), ("count", .text (Nat.repr count)), ("faults", .text (Nat.repr faults))]
  | started showsFaults => [("read_faults", .flag showsFaults)]

/-- The event of a unit that was decoded. -/
def ofDecoded : Decoded → Event
  | .clean value => unit value
  | .faulty f => fault f

end Event

/-- The events that a verbosity keeps, in order. -/
def Verbosity.filter (verbosity : Verbosity) (events : List Event) : List Event :=
  events.filter fun event => verbosity.keeps event.level

end CipUnits
