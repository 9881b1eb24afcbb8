import CipUnits.Number.Decimal

/-!
# `CipUnits.Json` — JSON values in their compact written form

## Contents
- `Json` — the values; an object keeps the order of its fields.
- `Json.stringText` — strings: quote, backslash and the characters below U+0020 are escaped, all others
  stand for themselves.
- `Json.text` — the compact form, without any space between its parts.
-/

namespace CipUnits

/-- A JSON value. -/
inductive Json where
  | null
  | bool (b : Bool)
  | integer (i : Int)
  | decimal (d : Decimal)
  | string (s : String)
  | array (items : List Json)
  | object (fields : List (String × Json))

namespace Json

/-- Decimals are positional from `0.00001` to below `10 ^ 16`, with at least one digit after the point. -/
def numberLayout : Layout := ⟨some (-5, 15), true⟩

/-- A digit of the four that name a character below U+0020. -/
def hexDigit (n : Nat) : Char := Nat.digitChar (n % 16)

/-- How one character stands in a string. -/
def stringChar (c : Char) : List Char :=
  match c with
  | '"' => ['\\', '"']
  | '\\' => ['\\', '\\']
  | '\n' => ['\\', 'n']
  | '\r' => ['\\', 'r']
  | '\t' => ['\\', 't']
  | '\x08' => ['\\', 'b']
  | '\x0c' => ['\\', 'f']
  | _ => if c.toNat < 0x20 then ['\\', 'u', '0', '0', hexDigit (c.toNat / 16), hexDigit c.toNat] else [c]

/-- A string between double quotes. -/
def stringText (s : String) : List Char := '"' :: s.toList.flatMap stringChar ++ ['"']

/-- A whole number, with a minus sign if it is negative. -/
def integerText (i : Int) : List Char :=
  (if i < 0 then ['-'] else []) ++ Nat.toDigits 10 i.natAbs

mutual

/-- The compact form of a value, as characters. -/
def chars : Json → List Char
  | .null => "null".toList
  | .bool b => (if b then "true" else "false").toList
  | .integer i => integerText i
  | .decimal d => d.text numberLayout
  | .string s => stringText s
  | .array items => '[' :: itemChars items ++ [']']
  | .object fields => '\x7b' :: fieldChars fields ++ ['\x7d']

/-- The items of an array, separated by commas. -/
def itemChars : List Json → List Char
  | [] => []
  | [item] => item.chars
  | item :: items => item.chars ++ ',' :: itemChars items

/-- The fields of an object, separated by commas. -/
def fieldChars : List (String × Json) → List Char
  | [] => []
  | [(name, value)] => stringText name ++ ':' :: value.chars
  | (name, value) :: fields => stringText name ++ ':' :: (value.chars ++ ',' :: fieldChars fields)

end

/-- The compact form of a value. -/
def text (json : Json) : String := String.ofList json.chars

end Json

end CipUnits
