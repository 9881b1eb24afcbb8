/-!
# `CipUnits.Number.Binary` — binary floating-point numbers by their bits

An IEEE 754 binary format is given by the widths of its two fields. A bit pattern of the format is not
a number, an infinity, or a dyadic number `± significand · 2 ^ exponent`.

## Contents
- `Binary.Format` with `single` and `double`; `Binary.Format.read` decodes a bit pattern.
- `Dyadic.within` writes a number with the significand of a wider format.
- `isZeroPattern` — the two patterns of zero.
-/

namespace CipUnits

/-- A signed multiple of a power of two. -/
structure Dyadic where
  negative : Bool
  significand : Nat
  exponent : Int
deriving DecidableEq, Repr

namespace Binary

/-- A binary interchange format: one sign bit, a biased exponent and a fraction. -/
structure Format where
  exponentBits : Nat
  fractionBits : Nat
deriving DecidableEq, Repr

/-- The format of 32 bits. -/
def Format.single : Format := ⟨8, 23⟩

/-- The format of 64 bits. -/
def Format.double : Format := ⟨11, 52⟩

/-- What a bit pattern stands for. -/
inductive Reading where
  | nan
  | infinite (negative : Bool)
  | finite (number : Dyadic)
deriving DecidableEq, Repr

namespace Format

/-- The exponent of the last place of the smallest numbers. -/
def minExponent (f : Format) : Int := 2 - Nat.pow 2 (f.exponentBits - 1) - f.fractionBits

/-- What the lowest bits of a number stand for in the format. -/
def read (f : Format) (bits : Nat) : Reading :=
  let negative := bits.testBit (f.exponentBits + f.fractionBits)
  let exponent := bits / Nat.pow 2 f.fractionBits % Nat.pow 2 f.exponentBits
  let fraction := bits % Nat.pow 2 f.fractionBits
  if exponent = Nat.pow 2 f.exponentBits - 1 then
    if fraction = 0 then .infinite negative else .nan
  else if exponent = 0 then .finite ⟨negative, fraction, f.minExponent⟩
  else .finite ⟨negative, Nat.pow 2 f.fractionBits + fraction, f.minExponent + (exponent - 1)⟩

/-- Whether a bit pattern is that of zero, of either sign: no bit but the sign is set. -/
def isZeroPattern (f : Format) (bits : Nat) : Bool :=
  bits % Nat.pow 2 (f.exponentBits + f.fractionBits) = 0

end Format

end Binary

/-- The same number with as many significant bits as the format holds, or with its least exponent. -/
def Dyadic.within (f : Binary.Format) (d : Dyadic) : Dyadic :=
  let shift := min (f.fractionBits - d.significand.log2) (d.exponent - f.minExponent).toNat
  { d with significand := d.significand * Nat.pow 2 shift, exponent := d.exponent - shift }

end CipUnits
