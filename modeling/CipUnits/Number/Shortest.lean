import CipUnits.Number.Binary
import CipUnits.Number.Decimal

/-!
# `CipUnits.Number.Shortest` — the fewest digits that read back

The decimal text of a binary number has no more digits than it takes to find the number again: of all
decimals that round to it, those with the fewest digits are kept, and of these the nearest. All
arithmetic is exact, on natural numbers.

## Contents
- `RoundingInterval` — the reals that round to a number; `Dyadic.roundingInterval`.
- `nearestOnGrid?` — the multiple of a power of ten that lies in the interval, nearest to the number.
- `Dyadic.shortest` — the search from one digit on.
-/

namespace CipUnits

/-- What becomes of a number that lies midway between two decimals of the fewest digits. -/
inductive Tie where
  /-- The greater of the two is taken. -/
  | up
  /-- The one with an even last digit is taken. -/
  | even
deriving DecidableEq, Repr

/-- The reals that round to a number: their bounds and the number itself, over one denominator. -/
structure RoundingInterval where
  low : Nat
  value : Nat
  high : Nat
  denominator : Nat
  /-- Whether the two bounds round to the number too. -/
  closed : Bool

/-- The reals that round to a positive number of the format. They reach half a place to either side,
    but only a quarter below a power of two, where the places below are half as wide; the bounds go to
    the neighbour with an even significand. -/
def Dyadic.roundingInterval (f : Binary.Format) (d : Dyadic) : RoundingInterval :=
  let below := if d.significand = Nat.pow 2 f.fractionBits ∧ f.minExponent < d.exponent then 1 else 2
  let quarters := Nat.pow 2 (d.exponent - 2).toNat
  { low := (4 * d.significand - below) * quarters
    value := 4 * d.significand * quarters
    high := (4 * d.significand + 2) * quarters
    denominator := Nat.pow 2 (2 - d.exponent).toNat
    closed := d.significand % 2 = 0 }

namespace RoundingInterval

/-- Whether `c · 10 ^ k` lies in the interval. -/
def contains (i : RoundingInterval) (k : Int) (c : Nat) : Bool :=
  let point := c * Nat.pow 10 k.toNat * i.denominator
  let low := i.low * Nat.pow 10 (-k).toNat
  let high := i.high * Nat.pow 10 (-k).toNat
  if i.closed then low ≤ point && point ≤ high else low < point && point < high

/-- The greatest `c` for which `c · 10 ^ k` is not above the number. -/
def floorOnGrid (i : RoundingInterval) (k : Int) : Nat :=
  i.value * Nat.pow 10 (-k).toNat / (i.denominator * Nat.pow 10 k.toNat)

/-- The multiple of `10 ^ k` in the interval that is nearest to the number, if there is one. Only the
    number's two neighbours on the grid can be. -/
def nearestOnGrid? (i : RoundingInterval) (tie : Tie) (k : Int) : Option Nat :=
  let c := i.floorOnGrid k
  match i.contains k c, i.contains k (c + 1) with
  | false, false => none
  | true, false => some c
  | false, true => some (c + 1)
  | true, true =>
      let twice := 2 * i.value * Nat.pow 10 (-k).toNat
      let middle := (2 * c + 1) * (i.denominator * Nat.pow 10 k.toNat)
      if twice < middle then some c
      else if middle < twice then some (c + 1)
      else match tie with
        | .up => some (c + 1)
        | .even => some (if c % 2 = 0 then c else c + 1)

/-- The exponent of the number's first decimal digit. -/
def firstExponent (i : RoundingInterval) : Int :=
  if i.denominator ≤ i.value then (Nat.toDigits 10 (i.value / i.denominator)).length - 1
  else -(Nat.toDigits 10 ((i.denominator - 1) / i.value)).length

/-- The first hit on the grids of `10 ^ k`, `10 ^ (k - 1)` and so on, as coefficient and exponent. -/
def search (i : RoundingInterval) (tie : Tie) : (grids : Nat) → (k : Int) → Nat × Int
  | 0, k => (i.floorOnGrid k, k)
  | grids + 1, k =>
      match i.nearestOnGrid? tie k with
      | some c => (c, k)
      | none => search i tie grids (k - 1)

end RoundingInterval

/-- The decimal of the fewest digits that rounds to a number of the format, the nearest of these. As
    many digits as the significand has bits are always enough. -/
def Dyadic.shortest (f : Binary.Format) (tie : Tie) (d : Dyadic) : Decimal :=
  if d.significand = 0 then .ofCoefficient d.negative 0 0
  else
    let i := d.roundingInterval f
    let (c, k) := i.search tie (f.fractionBits + 1) i.firstExponent
    .ofCoefficient d.negative c k

end CipUnits
