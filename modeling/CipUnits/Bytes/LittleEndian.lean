/-!
# `CipUnits.Bytes.LittleEndian` — numbers as bytes, least significant first

## Contents
- **Blocks.** `Block n`, a byte string of exactly `n` bytes.
- **Reading and writing.** `littleEndian` sums `bᵢ · 256ⁱ`; `littleEndianBytes w n` writes the lowest
  `w` bytes of `n`. Writing undoes reading.
-/

namespace CipUnits

/-- A byte string of exactly `n` bytes. -/
abbrev Block (n : Nat) := { bytes : List UInt8 // bytes.length = n }

/-- The block of `n` zero bytes. -/
def Block.zeros (n : Nat) : Block n := ⟨List.replicate n 0, List.length_replicate⟩

/-- The number that bytes spell with the least significant byte first. -/
def littleEndian : List UInt8 → Nat
  | [] => 0
  | b :: bs => b.toNat + 256 * littleEndian bs

/-- The lowest `w` bytes of a number, least significant first. -/
def littleEndianBytes : (w : Nat) → Nat → List UInt8
  | 0, _ => []
  | w + 1, n => UInt8.ofNat n :: littleEndianBytes w (n / 256)

/-! ## Laws -/

@[simp] theorem length_littleEndianBytes (w n : Nat) : (littleEndianBytes w n).length = w := by
  induction w generalizing n with
  | zero => rfl
  | succ w ih => simp [littleEndianBytes, ih]

/-- Writing as many bytes as were read gives them back. -/
theorem littleEndianBytes_littleEndian (bs : List UInt8) :
    littleEndianBytes bs.length (littleEndian bs) = bs := by
  induction bs with
  | nil => rfl
  | cons b bs ih =>
      have hb : b.toNat < 256 := b.toNat_lt
      have hdiv : (b.toNat + 256 * littleEndian bs) / 256 = littleEndian bs := by omega
      have hbyte : UInt8.ofNat (b.toNat + 256 * littleEndian bs) = b := by
        apply UInt8.toNat_inj.mp
        simp only [UInt8.toNat_ofNat']
        omega
      simp [littleEndian, littleEndianBytes, hdiv, hbyte, ih]

end CipUnits
