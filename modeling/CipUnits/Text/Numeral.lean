/-!
# `CipUnits.Text.Numeral` — unsigned numerals with a largest value, and bytes in hexadecimal

A numeral is an optional plus sign followed by one or more digits of its base; zeros may lead it, in
any number. `readNumeral?` refuses every other text, and a numeral above the given largest value.

## Contents
- `digit?` — the value of one digit character, letters of either case from ten on.
- `digits?` — the value of a run of digits, most significant first.
- `readNumeral?` — the whole grammar.
- `afterHexMarker?` — what follows `0x` or `0X`; `hexByte` — a byte as two digits.
-/

namespace CipUnits.Text

/-- The value of a digit of the given base (at most 36): `0`–`9`, then the letters in either case. -/
def digit? (base : Nat) (c : Char) : Option Nat :=
  let value? :=
    if '0' ≤ c ∧ c ≤ '9' then some (c.toNat - '0'.toNat)
    else if 'a' ≤ c ∧ c ≤ 'z' then some (c.toNat - 'a'.toNat + 10)
    else if 'A' ≤ c ∧ c ≤ 'Z' then some (c.toNat - 'A'.toNat + 10)
    else none
  value?.filter (· < base)

/-- The value of a run of digits, continuing a number whose higher digits are already read. -/
def digits? (base : Nat) : (higher : Nat) → List Char → Option Nat
  | higher, [] => some higher
  | higher, c :: cs => do digits? base (higher * base + (← digit? base c)) cs

/-- The number a numeral of the given base stands for, if it is at most `largest`. -/
def readNumeral? (base largest : Nat) (text : List Char) : Option Nat :=
  let digits := match text with
    | '+' :: rest => rest
    | _ => text
  if digits.isEmpty then none else (digits? base 0 digits).filter (· ≤ largest)

/-- What follows a hexadecimal marker at the start of a text, if there is one. -/
def afterHexMarker? : List Char → Option (List Char)
  | '0' :: 'x' :: digits => some digits
  | '0' :: 'X' :: digits => some digits
  | _ => none

/-- A byte as two hexadecimal digits, letters in capitals. -/
def hexByte (b : UInt8) : String :=
  String.ofList ([b.toNat / 16, b.toNat % 16].map fun digit => (Nat.digitChar digit).toUpper)

end CipUnits.Text
