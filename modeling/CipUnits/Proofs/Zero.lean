import CipUnits.Proofs.Refusal
import CipUnits.Value.Text
import Mathlib.Algebra.Field.Rat

/-!
# `CipUnits.Proofs.Zero` — the test for zero, seen from the wire

A zero stands for a unit that was not read, and so there is a test for it. The test is a comparison: a
value is looked up by its tag in the table of zeros and compared to what is there (`isZero_eq_equals`).
How values compare depends on their type. Truth values, whole numbers and strings are equal if they are
the same. Floating-point numbers are equal if they are the same number, so that there are two zeros, and
what is not a number is equal to nothing, not even to itself.

On the wire this comes to one rule with one exception (`isZero_ofBlock_iff`). All bytes are zero, or the
unit is a floating-point number of which only the sign is set. A string has no exception: its text may be
empty, but whatever else is left in the payload counts.

## Contents
- **Comparing.** `Value.equals`, down to the rational number of a finite pattern.
- **Patterns.** `equals_read_zero`, the comparison by bits; `isZero_eq_equals`.
- **Bits on the wire.** `bitAt`, `OnlySign` and `onlySign_iff`; `isZero_ofBlock_iff`.
- **Units that were not read.** `Elementary.value_decode_of_fault`.
- `zero_law` — the test on every unit, read or not.
-/

namespace CipUnits

/-! ## Comparing -/

/-- The rational number that a dyadic number is. -/
def Dyadic.toRat (d : Dyadic) : ℚ := (if d.negative then -1 else 1) * d.significand * 2 ^ d.exponent

theorem Dyadic.toRat_eq_zero_iff {d : Dyadic} : d.toRat = 0 ↔ d.significand = 0 := by
  have hsign : (if d.negative then -1 else 1 : ℚ) ≠ 0 := by split <;> decide
  have hpower : (2 : ℚ) ^ d.exponent ≠ 0 := zpow_ne_zero _ two_ne_zero
  rw [toRat, mul_eq_zero_iff_right hpower, mul_eq_zero_iff_left hsign, Nat.cast_eq_zero]

/-- Whether two patterns are equal as floating-point numbers compare. What is not a number is equal to
    nothing, and finite numbers are compared by what they are, whatever the sign of a zero. -/
def Binary.Reading.equals : Binary.Reading → Binary.Reading → Bool
  | infinite a, infinite b => a == b
  | finite a, finite b => a.toRat == b.toRat
  | _, _ => false

theorem Binary.Reading.equals_zero_iff {exponent : Int} {d : Dyadic} :
    (finite ⟨false, 0, exponent⟩).equals (finite d) = true ↔ d.significand = 0 := by
  have hzero : (⟨false, 0, exponent⟩ : Dyadic).toRat = 0 := Dyadic.toRat_eq_zero_iff.mpr rfl
  rw [equals, hzero, beq_iff_eq, eq_comm, Dyadic.toRat_eq_zero_iff]

/-- Whether two numbers are equal. -/
def Quantity.equals : Quantity → Quantity → Bool
  | whole i, whole j => i == j
  | binary _ a, binary _ b => a.equals b
  | _, _ => false

namespace Value

/-- Whether two values are equal: they have one type and are equal as its values compare. -/
def equals : Value → Value → Bool
  | bool a, bool b => a == b
  | number s a, number t b => s == t && (s.quantity a).equals (t.quantity b)
  | string p, string q => p == q
  | _, _ => false

/-- Whether a value is a floating-point pattern that is not a number. -/
def IsNaN : Value → Prop
  | number type bits => ∃ format, type.quantity bits = .binary format .nan
  | _ => False

end Value

theorem Quantity.equals_nan (q : Quantity) (format : Binary.Format) :
    q.equals (.binary format .nan) = false := by
  cases q with
  | whole i => rfl
  | binary _ reading => cases reading <;> rfl

/-- **What is not a number is equal to nothing.** -/
theorem Value.equals_of_isNaN {value : Value} (h : value.IsNaN) (other : Value) :
    other.equals value = false := by
  cases value with
  | bool b => cases h
  | number type bits =>
      obtain ⟨format, hnan⟩ := h
      cases other with
      | bool b => rfl
      | number s a => rw [equals, hnan, Quantity.equals_nan, Bool.and_false]
      | string payload => rfl
  | string payload => cases h

/-! ## Patterns -/

namespace Binary.Format

variable {f : Format}

/-- No bit but the sign is set exactly if neither the fraction nor the exponent has one. -/
theorem isZeroPattern_iff {bits : Nat} : f.isZeroPattern bits = true
    ↔ bits % 2 ^ f.fractionBits = 0 ∧ bits / 2 ^ f.fractionBits % 2 ^ f.exponentBits = 0 := by
  rw [isZeroPattern, decide_eq_true_iff, Nat.pow_eq, Nat.add_comm, Nat.pow_add, Nat.mod_mul,
    Nat.add_eq_zero_iff, Nat.mul_eq_zero]
  have hplace : ¬2 ^ f.fractionBits = 0 := Nat.pos_iff_ne_zero.mp (Nat.two_pow_pos _)
  rw [or_iff_right hplace]

/-- A pattern that fills the format, but for the sign, is one of the two zeros or none. -/
theorem isZeroPattern_iff_of_lt {bits : Nat} (h : bits < 2 ^ (f.exponentBits + f.fractionBits + 1)) :
    f.isZeroPattern bits = true ↔ bits = 0 ∨ bits = 2 ^ (f.exponentBits + f.fractionBits) := by
  rw [isZeroPattern, decide_eq_true_iff, Nat.pow_eq]
  rw [Nat.pow_succ] at h
  generalize 2 ^ (f.exponentBits + f.fractionBits) = sign at h ⊢
  constructor
  · intro hzero
    obtain ⟨k, rfl⟩ := Nat.dvd_of_mod_eq_zero hzero
    have hk : k < 2 := Nat.lt_of_mul_lt_mul_left h
    rcases (by omega : k = 0 ∨ k = 1) with rfl | rfl
    · exact .inl (Nat.mul_zero _)
    · exact .inr (Nat.mul_one _)
  · rintro (rfl | rfl)
    · exact Nat.zero_mod _
    · exact Nat.mod_self _

/-- The exponent of infinities and of what is not a number is none of a zero. -/
theorem topExponent_ne_zero (hf : 0 < f.exponentBits) : 2 ^ f.exponentBits - 1 ≠ 0 := by
  have hpower := Nat.one_lt_two_pow (Nat.pos_iff_ne_zero.mp hf)
  omega

theorem read_zero (hf : 0 < f.exponentBits) : f.read 0 = .finite ⟨false, 0, f.minExponent⟩ := by
  have htop : 0 ≠ 2 ^ f.exponentBits - 1 := (topExponent_ne_zero hf).symm
  simp only [read, Nat.pow_eq, Nat.zero_testBit, Nat.zero_div, Nat.zero_mod, if_neg htop, if_true]

/-- **Comparing to zero** is a look at the bits. An exponent of only ones is no finite number; a normal
    number has a leading one; and a subnormal one is its fraction. -/
theorem equals_read_zero (hf : 0 < f.exponentBits) (bits : Nat) :
    (f.read 0).equals (f.read bits) = f.isZeroPattern bits := by
  have hlead : 0 < 2 ^ f.fractionBits := Nat.two_pow_pos _
  rw [read_zero hf, Bool.eq_iff_iff, isZeroPattern_iff]
  simp only [read, Nat.pow_eq]
  generalize bits / 2 ^ f.fractionBits % 2 ^ f.exponentBits = exponent
  generalize bits % 2 ^ f.fractionBits = fraction
  by_cases hall : exponent = 2 ^ f.exponentBits - 1
  · have hexponent : exponent ≠ 0 := hall ▸ topExponent_ne_zero hf
    rw [if_pos hall]
    split <;> simp [Reading.equals, hexponent]
  · rw [if_neg hall]
    by_cases hexponent : exponent = 0
    · rw [if_pos hexponent, Reading.equals_zero_iff, and_iff_left hexponent]
    · rw [if_neg hexponent, Reading.equals_zero_iff]
      simp only [hexponent, and_false, iff_false]
      omega

end Binary.Format

/-- Two types of numbers are floating-point, and each fills its format. -/
theorem NumberType.of_binary {type : NumberType} {format : Binary.Format}
    (h : type.interpretation = .binary format) :
    (type = .real ∨ type = .lreal) ∧ 0 < format.exponentBits
      ∧ format.exponentBits + format.fractionBits + 1 = 8 * type.width := by
  cases type <;> cases h <;> decide

/-- Whole numbers are zero if no bit is set, with or without a sign. -/
theorem NumberType.equals_zero (type : NumberType) (bits : BitVec (8 * type.width)) :
    (type.quantity 0).equals (type.quantity bits) = (Value.number type bits).isZero := by
  simp only [quantity, Value.isZero]
  cases htype : type.interpretation with
  | unsigned =>
      rw [Bool.eq_iff_iff, beq_iff_eq, Quantity.equals, beq_iff_eq, Int.ofNat_inj, BitVec.toNat_inj]
      exact eq_comm
  | signed =>
      rw [Bool.eq_iff_iff, beq_iff_eq, Quantity.equals, beq_iff_eq, BitVec.toInt_inj]
      exact eq_comm
  | binary format =>
      exact Binary.Format.equals_read_zero (of_binary htype).2.1 bits.toNat

theorem Block.eq_zeros_iff {n : Nat} {block : Block n} :
    block = Block.zeros n ↔ ∀ byte ∈ block.val, byte = 0 := by
  rw [Subtype.ext_iff, Block.zeros, List.eq_replicate_iff, and_iff_right block.property]

/-- **The test is a comparison** to the zero that stands in the table under the tag of the value. -/
theorem Value.isZero_eq_equals (value : Value) :
    value.isZero = value.tag.zero?.any (·.equals value) := by
  have hzero : value.tag.zero? = some (.zero value.type) := by
    rw [Tag.zero?_eq, Value.tag, value.type.elementary?_tag, Option.map_some]
  rw [hzero, Option.any_some]
  cases value with
  | bool b => cases b <;> rfl
  | number type bits =>
      have hsame : (type == type) = true := BEq.rfl
      show _ = (type == type && (type.quantity 0).equals (type.quantity bits))
      rw [hsame, Bool.true_and, type.equals_zero]
  | string payload =>
      show payload.val.all (· == 0) = (Block.zeros stringWidth == payload)
      rw [Bool.eq_iff_iff, beq_iff_eq, eq_comm (a := Block.zeros _), Block.eq_zeros_iff, List.all_eq_true]
      simp only [beq_iff_eq]

theorem Value.isZero_of_isNaN {value : Value} (h : value.IsNaN) : value.isZero = false := by
  rw [isZero_eq_equals]
  cases value.tag.zero? with
  | none => rfl
  | some zero => exact equals_of_isNaN h zero

/-! ## Bits on the wire -/

/-- The bit at a place of some bytes, counted from the lowest one of the first byte. Behind the last byte
    there is none. -/
def bitAt (bytes : List UInt8) (place : Nat) : Bool := (bytes.getD (place / 8) 0).toNat.testBit (place % 8)

/-- Of all the bits only the sign is set, which is the highest one of the last byte. -/
def OnlySign (bytes : List UInt8) : Prop :=
  ∀ place, bitAt bytes place = true ↔ place + 1 = 8 * bytes.length

theorem testBit_littleEndian (bytes : List UInt8) (place : Nat) :
    (littleEndian bytes).testBit place = bitAt bytes place := by
  induction bytes generalizing place with
  | nil => simp [littleEndian, bitAt]
  | cons b bs ih =>
      have hb : b.toNat < 2 ^ 8 := b.toNat_lt
      have hsplit : littleEndian (b :: bs) = 2 ^ 8 * littleEndian bs + b.toNat := Nat.add_comm _ _
      rw [hsplit, Nat.testBit_two_pow_mul_add _ hb, ih]
      unfold bitAt
      by_cases hplace : place < 8
      · rw [if_pos hplace, Nat.div_eq_of_lt hplace, Nat.mod_eq_of_lt hplace, List.getD_cons_zero]
      · have hbyte : place / 8 = (place - 8) / 8 + 1 := by omega
        have hbit : place % 8 = (place - 8) % 8 := by omega
        rw [if_neg hplace, hbyte, hbit, List.getD_cons_succ]

theorem onlySign_iff {bytes : List UInt8} (h : 0 < bytes.length) :
    OnlySign bytes ↔ littleEndian bytes = 2 ^ (8 * bytes.length - 1) := by
  constructor
  · intro hsign
    apply Nat.eq_of_testBit_eq
    intro place
    rw [testBit_littleEndian, Nat.testBit_two_pow, Bool.eq_iff_iff, hsign, decide_eq_true_iff]
    omega
  · intro hnumber place
    rw [← testBit_littleEndian, hnumber, Nat.testBit_two_pow, decide_eq_true_iff]
    omega

theorem littleEndian_eq_zero_iff {bytes : List UInt8} :
    littleEndian bytes = 0 ↔ ∀ byte ∈ bytes, byte = 0 := by
  induction bytes with
  | nil => simp [littleEndian]
  | cons b bs ih =>
      rw [littleEndian, Nat.add_eq_zero_iff, List.forall_mem_cons, ← ih, ← UInt8.toNat_inj]
      simp

/-- A number is zero if it has no bit, and a floating-point one also if it has the highest alone. -/
theorem Value.isZero_number_iff (type : NumberType) (bits : BitVec (8 * type.width)) :
    (number type bits).isZero = true
      ↔ bits.toNat = 0 ∨ (type = .real ∨ type = .lreal) ∧ bits.toNat = 2 ^ (8 * type.width - 1) := by
  simp only [isZero]
  cases htype : type.interpretation with
  | unsigned | signed =>
      have hwhole : ¬(type = .real ∨ type = .lreal) := by rintro (rfl | rfl) <;> cases htype
      rw [or_iff_left fun h => hwhole h.1, beq_iff_eq, ← BitVec.toNat_inj]
      rfl
  | binary format =>
      obtain ⟨hfloat, -, hfills⟩ := NumberType.of_binary htype
      have hlt : bits.toNat < 2 ^ (format.exponentBits + format.fractionBits + 1) := by
        rw [hfills]
        exact bits.isLt
      have hsign : 8 * type.width - 1 = format.exponentBits + format.fractionBits := by omega
      rw [and_iff_right hfloat, hsign]
      exact Binary.Format.isZeroPattern_iff_of_lt hlt

/-- **One rule and one exception.** A value is zero exactly if all bytes that it is read from are, or if it
    is a floating-point number and only its sign is set. -/
theorem Value.isZero_ofBlock_iff (type : Elementary) (block : Block type.width) :
    (ofBlock type block).isZero = true
      ↔ (∀ byte ∈ block.val, byte = 0)
        ∨ (type = .number .real ∨ type = .number .lreal) ∧ OnlySign block.val := by
  cases type with
  | bool => simp [ofBlock, isZero, ← littleEndian_eq_zero_iff]
  | number type =>
      have hbits : (BitVec.ofNat (8 * type.width) (littleEndian block.val)).toNat = littleEndian block.val :=
        toNat_littleEndian block
      have hlength : block.val.length = type.width := block.property
      rw [ofBlock, isZero_number_iff, hbits, littleEndian_eq_zero_iff, ← hlength,
        Elementary.number.injEq, Elementary.number.injEq]
      refine or_congr_right (and_congr_right fun hfloat => ?_)
      have hwidth : 0 < block.val.length := by
        rcases hfloat with rfl | rfl <;> rw [hlength] <;> decide
      exact (onlySign_iff hwidth).symm
  | string => simp [ofBlock, isZero]

/-! ## Units that were not read -/

theorem Value.isZero_zero (type : Elementary) : (zero type).isZero = true := by
  cases type with
  | bool => rfl
  | number type => exact (isZero_number_iff type 0).mpr (.inl rfl)
  | string => decide

/-- A unit that was not read has the zero of its type as its value. -/
theorem Elementary.value_decode_of_fault {σ : Type} [ByteSource σ] {type : Elementary} {source : σ}
    (h : (type.decode source).unit.fault? ≠ none) : (type.decode source).unit.value = .zero type := by
  have htype := type.type_value_decode source
  cases hunit : (type.decode source).unit with
  | clean value =>
      rw [hunit] at h
      exact absurd rfl h
  | faulty fault =>
      rw [hunit, Decoded.value, Value.type_zero] at htype
      rw [Decoded.value, htype]

/-! ## The law -/

/-- **Zero.** The test compares a value to what the table of zeros has under its tag. Of a unit whose bytes
    are all there it holds exactly if these are all zero, or if the tag is that of a floating-point type and
    of all bits only the sign is set. So it holds of nothing that is not a number, and of a string only if
    no byte of the payload is set. A unit that was not read has the zero of the table as its value, of
    which the test holds. -/
theorem zero_law {σ : Type} [ByteSource σ] :
    (∀ value : Value, value.isZero = value.tag.zero?.any (·.equals value))
      ∧ (∀ (tag : Tag) (bytes : List UInt8), tag.isDecodable = true → tag.payloadSize ≤ bytes.length →
          ∃ value : Value,
            decode tag bytes = .ok ⟨.clean value, tag.payloadSize, bytes.drop tag.payloadSize⟩
              ∧ (value.isZero = true
                  ↔ (∀ byte ∈ bytes.take tag.payloadSize, byte = 0)
                    ∨ (tag = (Elementary.number .real).tag ∨ tag = (Elementary.number .lreal).tag)
                      ∧ OnlySign (bytes.take tag.payloadSize))
              ∧ (value.IsNaN → value.isZero = false)
              ∧ (tag = Elementary.string.tag →
                  (value.isZero = true ↔ bytes.take stringWidth = List.replicate stringWidth 0)))
      ∧ ∀ (tag : Tag) (source : σ) (decoding : Decoding σ), decode tag source = .ok decoding →
          decoding.unit.fault? ≠ none →
            tag.zero? = some decoding.unit.value ∧ decoding.unit.value.isZero = true := by
  refine ⟨Value.isZero_eq_equals, ?_, ?_⟩
  · intro tag bytes htag hbytes
    obtain ⟨type, rfl⟩ := Tag.isDecodable_iff.mp htag
    rw [type.payloadSize_tag] at hbytes ⊢
    have hfront : (bytes.take type.width).length = type.width := List.length_take_of_le hbytes
    have hzero := Value.isZero_ofBlock_iff type ⟨bytes.take type.width, hfront⟩
    refine ⟨.ofBlock type ⟨bytes.take type.width, hfront⟩, ?_, ?_, ?_, ?_⟩
    · rw [decode_tag, type.decode_of_length_le hbytes]
    · rw [hzero, Elementary.tag_inj, Elementary.tag_inj]
    · exact Value.isZero_of_isNaN
    · intro hstring
      obtain rfl := Elementary.tag_inj.mp hstring
      have hexact : ¬(Elementary.string = .number .real ∨ Elementary.string = .number .lreal) := by decide
      rw [hzero, or_iff_left fun h => hexact h.1, List.eq_replicate_iff]
      exact (and_iff_right hfront).symm
  · intro tag source decoding hdecode hfault
    obtain ⟨type, rfl, rfl⟩ := decode_eq_ok_iff.mp hdecode
    rw [type.value_decode_of_fault hfault, Tag.zero?_eq, type.elementary?_tag]
    exact ⟨rfl, Value.isZero_zero type⟩

/-- A zero with a sign, a pattern that is not a number, a string of no characters with a letter left in its
    payload, and a unit of four bytes of which there are two. -/
theorem zero_law_of_four_units :
    let real : Tag := (Elementary.number .real).tag
    let negative : List UInt8 := [0x00, 0x00, 0x00, 0x80]
    let quiet : List UInt8 := [0x00, 0x00, 0xC0, 0x7F]
    let nan : Value := .number .real 0x7FC00000
    let stale : Payload := ⟨[0x00, 0x00, 0x00, 0x00, 0x58] ++ List.replicate 81 0x00, rfl⟩
    let half : Decoding (List UInt8) := (Elementary.number .dint).decode [0x01, 0x02]
    (∃ value, decode real negative = .ok ⟨.clean value, 4, []⟩ ∧ value.isZero = true)
      ∧ (decode real quiet = .ok ⟨.clean nan, 4, []⟩ ∧ nan.IsNaN ∧ nan.isZero = false)
      ∧ (decode Elementary.string.tag stale.val = .ok ⟨.clean (.string stale), 86, []⟩
          ∧ (Value.string stale).text? = some "" ∧ (Value.string stale).isZero = false)
      ∧ half.unit.fault? ≠ none ∧ half.unit.value.isZero = true := by
  intro real negative quiet nan stale half
  obtain ⟨-, hread, hunread⟩ := zero_law (σ := List UInt8)
  refine ⟨?_, ?_, ?_, ?_⟩
  · obtain ⟨value, hdecode, hzero, -⟩ := hread real negative (by decide) (by decide)
    have hsign : OnlySign negative := (onlySign_iff (by decide)).mpr (by decide)
    exact ⟨value, hdecode, hzero.mpr (.inr ⟨.inl rfl, hsign⟩)⟩
  · obtain ⟨value, hdecode, -, hnan, -⟩ := hread real quiet (by decide) (by decide)
    have hquiet : decode real quiet = .ok ⟨.clean nan, 4, []⟩ := rfl
    obtain rfl : value = nan := by
      cases hdecode.symm.trans hquiet
      rfl
    exact ⟨hquiet, ⟨_, rfl⟩, hnan ⟨_, rfl⟩⟩
  · obtain ⟨value, hdecode, -, -, hstring⟩ :=
      hread Elementary.string.tag stale.val (by decide) (by decide)
    have hstale : decode Elementary.string.tag stale.val = .ok ⟨.clean (.string stale), 86, []⟩ := rfl
    obtain rfl : value = .string stale := by
      cases hdecode.symm.trans hstale
      rfl
    refine ⟨hstale, by decide, ?_⟩
    rw [Bool.eq_false_iff, ne_eq, hstring rfl]
    decide
  · have hfault : half.unit.fault? ≠ none := by
      rw [Elementary.fault?_decode]
      decide
    exact ⟨hfault, (hunread _ _ half (decode_tag _ _) hfault).2⟩

end CipUnits
