/-!
# `CipUnits.Number.Decimal` — decimal numbers and their layouts

A decimal number is a sign, a run of digits and the exponent of the first of them. A layout decides
which exponents are written positionally and whether a whole number keeps a point.

## Contents
- `Decimal` — `± d.ddd · 10 ^ exponent`; `Decimal.ofCoefficient` drops the zeros at the end.
- `Layout` and `Decimal.text` — the written form.
-/

namespace CipUnits

/-- A decimal number `± d.ddd · 10 ^ exponent`, its digits given in order. -/
structure Decimal where
  negative : Bool
  digits : List Char
  exponent : Int
deriving DecidableEq, Repr

/-- The number `± coefficient · 10 ^ exponent`, without zeros at the end of its digits. -/
def Decimal.ofCoefficient (negative : Bool) (coefficient : Nat) (exponent : Int) : Decimal :=
  let digits := Nat.toDigits 10 coefficient
  let significant := (digits.reverse.dropWhile (· == '0')).reverse
  if significant.isEmpty then ⟨negative, ['0'], 0⟩
  else ⟨negative, significant, exponent + (digits.length - 1)⟩

/-- The choices a number format makes in writing a decimal. -/
structure Layout where
  /-- The least and the greatest exponent written positionally; none means that all are. -/
  positional : Option (Int × Int)
  /-- Whether a whole number written positionally ends in `.0`. -/
  wholePoint : Bool

namespace Decimal

/-- Whether the layout writes the number without an exponent. -/
def isPositional (layout : Layout) (d : Decimal) : Bool :=
  layout.positional.all fun (least, greatest) => least ≤ d.exponent && d.exponent ≤ greatest

/-- The digits with the point where the exponent puts it, filled up with zeros. -/
def positionalText (layout : Layout) (d : Decimal) : List Char :=
  if d.exponent < 0 then
    ['0', '.'] ++ List.replicate ((-d.exponent).toNat - 1) '0' ++ d.digits
  else
    let wholeDigits := d.exponent.toNat + 1
    let fraction := d.digits.drop wholeDigits
    d.digits.take wholeDigits ++ List.replicate (wholeDigits - d.digits.length) '0'
      ++ (if !fraction.isEmpty then '.' :: fraction else if layout.wholePoint then ['.', '0'] else [])

/-- One digit before the point, the others after it, and the exponent with its sign. -/
def scientificText (d : Decimal) : List Char :=
  let fraction := d.digits.drop 1
  d.digits.take 1 ++ (if fraction.isEmpty then [] else '.' :: fraction)
    ++ ['e', if d.exponent < 0 then '-' else '+'] ++ Nat.toDigits 10 d.exponent.natAbs

/-- The number in a layout. Negative zero keeps its sign. -/
def text (layout : Layout) (d : Decimal) : List Char :=
  (if d.negative then ['-'] else [])
    ++ (if d.isPositional layout then d.positionalText layout else d.scientificText)

end Decimal

end CipUnits
