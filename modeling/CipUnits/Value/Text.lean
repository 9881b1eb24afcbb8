import CipUnits.Json
import CipUnits.Number.Shortest
import CipUnits.Text.Quoted
import CipUnits.Text.Utf8
import CipUnits.Value.Basic

/-!
# `CipUnits.Value.Text` — values as text and as JSON

## Contents
- `Payload.text` — the text a string payload holds.
- `Value.display` — the form for people: decimals without an exponent, strings quoted.
- `Value.json` — the form for programs: floating-point numbers by their 64-bit value, `null` for those
  that are not finite, strings as such.
-/

namespace CipUnits

/-! ## Strings -/

/-- The bytes of the characters: as many as the length says, at most the whole area. -/
def Payload.characters (payload : Payload) : List UInt8 :=
  (payload.val.drop stringLengthWidth).take (littleEndian (payload.val.take stringLengthWidth))

/-- The text of a string payload, with a replacement character for what is not UTF-8. -/
def Payload.text (payload : Payload) : String := String.ofList (Text.readUtf8 payload.characters)

/-- The text of a string value. -/
def Value.text? : Value → Option String
  | string payload => some payload.text
  | _ => none

/-! ## Numbers -/

/-- Numbers for people are always positional, and whole ones have no point. -/
def Quantity.displayLayout : Layout := ⟨none, false⟩

/-- A number as people read it, with the fewest digits that its own format needs. -/
def Quantity.display : Quantity → List Char
  | whole i => Json.integerText i
  | binary _ .nan => ['N', 'a', 'N']
  | binary _ (.infinite negative) => (if negative then ['-'] else []) ++ ['i', 'n', 'f']
  | binary format (.finite number) => (number.shortest format .up).text displayLayout

/-- A number as JSON. A number of a narrower format is the 64-bit number of the same value. -/
def Quantity.json : Quantity → Json
  | whole i => .integer i
  | binary _ .nan | binary _ (.infinite _) => .null
  | binary _ (.finite number) => .decimal ((number.within .double).shortest .double .even)

/-! ## Values -/

/-- A value as people read it. -/
def Value.display : Value → String
  | bool b => (Json.bool b).text
  | number type bits => String.ofList (type.quantity bits).display
  | string payload => Text.quoted payload.text

/-- A value as JSON. -/
def Value.json : Value → Json
  | bool b => .bool b
  | number type bits => (type.quantity bits).json
  | string payload => .string payload.text

end CipUnits
