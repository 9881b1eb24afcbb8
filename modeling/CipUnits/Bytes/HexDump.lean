import CipUnits.Text.Blank
import CipUnits.Text.Numeral
import CipUnits.Text.Utf8

/-!
# `CipUnits.Bytes.HexDump` — bytes written in hexadecimal

A hex dump is a run of digits cut into chunks by white space, commas and colons, at any places. Each
chunk may start with a hexadecimal marker. The digits of all chunks together are taken in pairs, one
pair a byte.

## Contents
- `chunks` — the text cut at its separators; `digits` — what is left without separators and markers.
- `readPairs` — the bytes of the pairs.
- `read` — the whole dump, with `HexDump.Error` for a text that is not one.
-/

namespace CipUnits.HexDump

/-- Why a text is not a hex dump. -/
inductive Error where
  /-- The digits cannot be paired; their number is given. -/
  | oddDigits (count : Nat)
  /-- Two bytes of the text that are not a number in base sixteen. -/
  | notAByte (pair : List UInt8)
deriving DecidableEq, Repr

/-- The message of an error. -/
def Error.message : Error → String
  | oddDigits count => "hex input has an odd number of digits (" ++ Nat.repr count ++ ")"
  | notAByte pair => "invalid hex byte: " ++ String.ofList (Text.readUtf8 pair)

/-- Whether a character separates chunks. -/
def isSeparator (c : Char) : Bool := Text.isBlank c || c == ',' || c == ':'

/-- The text cut at its separators. -/
def chunks : List Char → List (List Char)
  | [] => [[]]
  | c :: cs =>
      if isSeparator c then [] :: chunks cs
      else match chunks cs with
        | [] => [[c]]
        | chunk :: later => (c :: chunk) :: later

/-- What follows the marker of a chunk, or all of the chunk if it has none. -/
def withoutMarker (chunk : List Char) : List Char := (Text.afterHexMarker? chunk).getD chunk

/-- The digits of all chunks in a row. -/
def digits (text : List Char) : List Char := (chunks text).flatMap withoutMarker

/-- The byte that two bytes of text spell in base sixteen. -/
def readPair (a b : UInt8) : Except Error UInt8 :=
  match Text.readNumeral? 16 255 (Text.readUtf8 [a, b]) with
  | some n => .ok (UInt8.ofNat n)
  | none => .error (.notAByte [a, b])

/-- The bytes that pairs spell, up to the first pair that spells none. -/
def readPairs : List UInt8 → Except Error (List UInt8)
  | a :: b :: pairs => do
      let byte ← readPair a b
      let bytes ← readPairs pairs
      return byte :: bytes
  | _ => .ok []

/-- The bytes of a hex dump. -/
def read (text : List Char) : Except Error (List UInt8) :=
  let digits := Text.writeUtf8 (digits text)
  if digits.length % 2 = 1 then .error (.oddDigits digits.length) else readPairs digits

end CipUnits.HexDump
