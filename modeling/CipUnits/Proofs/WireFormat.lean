import CipUnits.Decode
import CipUnits.Value.Narrow
import Mathlib.Algebra.BigOperators.Fin
import Mathlib.Tactic.Ring

/-!
# `CipUnits.Proofs.WireFormat` — bytes and the values they spell

A unit is decoded from its first bytes alone, and its value is what these spell in little-endian order.
Written back, the value gives the bytes again; only of a truth value is less kept than was read.

A buffer is read by getters, one for each native type, that take as many bytes as the native type is
wide and have no answer if there are fewer. The table of getters and the table of widths are separate
(`Elementary.native`, `Elementary.width`), and so it has to be shown that the buffer of a unit always
holds what its getter takes (`Elementary.get?_block`).

## Contents
- **Places.** `littleEndian_eq_sum`; `littleEndian` is the sum over the places of the bytes.
- **Getters.** `Target.get?` and `Elementary.get?`.
- **Spelling.** `NumberType.reading`, type by type; `Value.SpelledBy` and `spelledBy_ofBlock`.
- **Writing.** `toBytes_ofBlock` and `ofBlock_toBytes`.
- `wire_format` — the whole format, for every decodable tag.
-/

namespace CipUnits

/-! ## Places -/

theorem littleEndian_lt (bs : List UInt8) : littleEndian bs < 256 ^ bs.length := by
  induction bs with
  | nil => simp [littleEndian]
  | cons b bs ih =>
      have hb : b.toNat < 256 := b.toNat_lt
      simp only [littleEndian, List.length_cons, Nat.pow_succ]
      omega

theorem littleEndian_littleEndianBytes (w n : Nat) :
    littleEndian (littleEndianBytes w n) = n % 256 ^ w := by
  induction w generalizing n with
  | zero => simp [littleEndianBytes, littleEndian, Nat.mod_one]
  | succ w ih =>
      have hb : (UInt8.ofNat n).toNat = n % 256 := by simp
      rw [littleEndianBytes, littleEndian, ih, hb, Nat.pow_succ, Nat.mul_comm (256 ^ w) 256, Nat.mod_mul]

/-- The sum of the bytes, each at the place that it stands at. -/
def placeSum (bytes : List UInt8) : Nat := ∑ i : Fin bytes.length, bytes[i].toNat * 256 ^ (i : Nat)

theorem littleEndian_eq_sum (bytes : List UInt8) : littleEndian bytes = placeSum bytes := by
  induction bytes with
  | nil => rfl
  | cons b bs ih =>
      have hsplit : placeSum (b :: bs)
          = b.toNat * 256 ^ 0 + ∑ i : Fin bs.length, bs[i].toNat * 256 ^ ((i : Nat) + 1) :=
        Fin.sum_univ_succ _
      have hshift : ∑ i : Fin bs.length, bs[i].toNat * 256 ^ ((i : Nat) + 1) = 256 * placeSum bs := by
        rw [placeSum, Finset.mul_sum]
        exact Finset.sum_congr rfl fun i _ => by ring
      rw [littleEndian, ih, hsplit, hshift, pow_zero, mul_one]

theorem two_pow_bits (w : Nat) : 2 ^ (8 * w) = 256 ^ w := pow_mul 2 8 w

/-- A block has as many bits as it takes to hold its number. -/
theorem toNat_littleEndian {w : Nat} (block : Block w) :
    (BitVec.ofNat (8 * w) (littleEndian block.val)).toNat = littleEndian block.val := by
  have hsmall : littleEndian block.val < 2 ^ (8 * w) := by
    have hlt := littleEndian_lt block.val
    rwa [block.property, ← two_pow_bits] at hlt
  rw [BitVec.toNat_ofNat, Nat.mod_eq_of_lt hsmall]

/-! ## Getters -/

namespace Target

/-- The bytes of a native value. -/
def width : Target → Nat
  | bool | u8 | i8 => 1
  | u16 | i16 => 2
  | u32 | i32 | f32 => 4
  | u64 | i64 | f64 => 8
  | payload => stringWidth

/-- The native value that a block of its width spells. -/
def ofBlock : (target : Target) → Block target.width → target.Carrier
  | bool, block => littleEndian block.val != 0
  | u8, block => UInt8.ofBitVec (BitVec.ofNat 8 (littleEndian block.val))
  | i8, block => Int8.ofBitVec (BitVec.ofNat 8 (littleEndian block.val))
  | u16, block => UInt16.ofBitVec (BitVec.ofNat 16 (littleEndian block.val))
  | i16, block => Int16.ofBitVec (BitVec.ofNat 16 (littleEndian block.val))
  | u32, block => UInt32.ofBitVec (BitVec.ofNat 32 (littleEndian block.val))
  | i32, block => Int32.ofBitVec (BitVec.ofNat 32 (littleEndian block.val))
  | u64, block => UInt64.ofBitVec (BitVec.ofNat 64 (littleEndian block.val))
  | i64, block => Int64.ofBitVec (BitVec.ofNat 64 (littleEndian block.val))
  | f32, block => BitVec.ofNat 32 (littleEndian block.val)
  | f64, block => BitVec.ofNat 64 (littleEndian block.val)
  | payload, block => block

/-- Gets a native value from the front of a buffer, if the buffer is long enough. -/
def get? (target : Target) (buffer : List UInt8) : Option (target.Carrier × List UInt8) :=
  if h : (buffer.take target.width).length = target.width then
    some (target.ofBlock ⟨buffer.take target.width, h⟩, buffer.drop target.width)
  else none

theorem get?_of_length {target : Target} {buffer : List UInt8} (h : buffer.length = target.width) :
    target.get? buffer = some (target.ofBlock ⟨buffer, h⟩, []) := by
  have hall : buffer.take target.width = buffer := List.take_of_length_le (Nat.le_of_eq h)
  have hnone : buffer.drop target.width = [] := List.drop_of_length_le (Nat.le_of_eq h)
  simp only [get?, hall, hnone, h, dite_true]

end Target

namespace Elementary

/-- The native type whose getter reads a unit. The byte of a truth value is read as a number. -/
def native : Elementary → Target
  | bool => .u8
  | number .byte | number .usint => .u8
  | number .sint => .i8
  | number .int => .i16
  | number .dint => .i32
  | number .lint => .i64
  | number .uint | number .word => .u16
  | number .udint | number .dword => .u32
  | number .lword => .u64
  | number .real => .f32
  | number .lreal => .f64
  | string => .payload

/-- The value of a native value. -/
def wrap : (type : Elementary) → type.native.Carrier → Value
  | bool, (n : UInt8) => .bool (n != 0)
  | number .byte, (n : UInt8) => .number .byte n.toBitVec
  | number .usint, (n : UInt8) => .number .usint n.toBitVec
  | number .sint, (n : Int8) => .number .sint n.toBitVec
  | number .int, (n : Int16) => .number .int n.toBitVec
  | number .dint, (n : Int32) => .number .dint n.toBitVec
  | number .lint, (n : Int64) => .number .lint n.toBitVec
  | number .uint, (n : UInt16) => .number .uint n.toBitVec
  | number .word, (n : UInt16) => .number .word n.toBitVec
  | number .udint, (n : UInt32) => .number .udint n.toBitVec
  | number .dword, (n : UInt32) => .number .dword n.toBitVec
  | number .lword, (n : UInt64) => .number .lword n.toBitVec
  | number .real, (pattern : BitVec 32) => .number .real pattern
  | number .lreal, (pattern : BitVec 64) => .number .lreal pattern
  | string, payload => .string payload

/-- Gets the value of a unit from the front of a buffer. -/
def get? (type : Elementary) (buffer : List UInt8) : Option (Value × List UInt8) :=
  (type.native.get? buffer).map fun (native, rest) => (type.wrap native, rest)

/-- The getter of a type takes the bytes of one unit. -/
theorem width_native (type : Elementary) : type.native.width = type.width := by
  cases type with
  | bool | string => rfl
  | number type => cases type <;> rfl

/-- What the getter of a type makes of a block is the value that the block spells. -/
theorem wrap_ofBlock (type : Elementary) (block : Block type.width)
    (hwidth : block.val.length = type.native.width) :
    type.wrap (type.native.ofBlock ⟨block.val, hwidth⟩) = .ofBlock type block := by
  cases type with
  | bool =>
      have hbyte : (UInt8.ofBitVec (BitVec.ofNat 8 (littleEndian block.val))).toNat
          = littleEndian block.val := toNat_littleEndian block
      have hzero : UInt8.ofBitVec (BitVec.ofNat 8 (littleEndian block.val)) = 0
          ↔ littleEndian block.val = 0 := by
        rw [← UInt8.toNat_inj, hbyte]
        rfl
      have htruth : (UInt8.ofBitVec (BitVec.ofNat 8 (littleEndian block.val)) != 0)
          = (littleEndian block.val != 0) := by
        rw [Bool.eq_iff_iff, bne_iff_ne, bne_iff_ne, ne_eq, ne_eq, hzero]
      exact congrArg Value.bool htruth
  | string => rfl
  | number type => cases type <;> rfl

/-- **A getter never runs past its buffer.** The buffer of one unit holds exactly what the getter of its
    type takes. -/
theorem get?_block (type : Elementary) (block : Block type.width) :
    type.get? block.val = some (.ofBlock type block, []) := by
  have hwidth : block.val.length = type.native.width := block.property.trans type.width_native.symm
  rw [get?, Target.get?_of_length hwidth, Option.map_some]
  exact congrArg (fun value => some (value, [])) (type.wrap_ofBlock block hwidth)

end Elementary

/-! ## Spelling -/

/-- The number that bytes spell in two's complement. -/
def twosComplement (bytes : List UInt8) : Int :=
  if 2 * placeSum bytes < 256 ^ bytes.length then placeSum bytes else placeSum bytes - 256 ^ bytes.length

namespace NumberType

/-- What each numeric type reads in bytes: the sum over their places, the number that they spell in two's
    complement, or the floating-point number of which the sum is the pattern. -/
def reading (type : NumberType) (bytes : List UInt8) : Quantity :=
  match type with
  | byte | usint | uint | udint | word | dword | lword => .whole (placeSum bytes)
  | sint | int | dint | lint => .whole (twosComplement bytes)
  | real => .binary .single (Binary.Format.single.read (placeSum bytes))
  | lreal => .binary .double (Binary.Format.double.read (placeSum bytes))

theorem toInt_eq_twosComplement {w : Nat} {bits : BitVec (8 * w)} {bytes : List UInt8}
    (hlength : bytes.length = w) (hbits : bits.toNat = placeSum bytes) :
    bits.toInt = twosComplement bytes := by
  rw [BitVec.toInt_eq_toNat_cond, hbits, two_pow_bits, ← hlength]
  unfold twosComplement
  simp only [Nat.cast_pow, Nat.cast_ofNat]

/-- The table of interpretations gives each type what it reads in the bytes of its bits. -/
theorem quantity_eq_reading {type : NumberType} {bits : BitVec (8 * type.width)} {bytes : List UInt8}
    (hlength : bytes.length = type.width) (hbits : bits.toNat = placeSum bytes) :
    type.quantity bits = type.reading bytes := by
  have hsigned : bits.toInt = twosComplement bytes := toInt_eq_twosComplement hlength hbits
  cases type with
  | byte | usint | uint | udint | word | dword | lword =>
      exact congrArg (fun sum : Nat => Quantity.whole sum) hbits
  | sint | int | dint | lint => exact congrArg Quantity.whole hsigned
  | real => exact congrArg (fun sum => Quantity.binary .single (Binary.Format.single.read sum)) hbits
  | lreal => exact congrArg (fun sum => Quantity.binary .double (Binary.Format.double.read sum)) hbits

end NumberType

namespace Value

/-- What some bytes say of a value: a truth value is false exactly for the byte zero; a number has the
    bits of the sum over the places of the bytes, and stands for what its type reads in them; a string is
    the bytes. -/
def SpelledBy (bytes : List UInt8) : Value → Prop
  | bool b => ∃ byte, bytes = [byte] ∧ (b = true ↔ byte ≠ 0)
  | number type bits => bits.toNat = placeSum bytes ∧ type.quantity bits = type.reading bytes
  | string payload => payload.val = bytes

theorem spelledBy_ofBlock (type : Elementary) (block : Block type.width) :
    (ofBlock type block).SpelledBy block.val := by
  cases type with
  | bool =>
      obtain ⟨byte, hbyte⟩ := List.length_eq_one_iff.mp block.property
      refine ⟨byte, hbyte, ?_⟩
      rw [hbyte, bne_iff_ne, ne_eq, ne_eq, ← UInt8.toNat_inj]
      simp [littleEndian]
  | number type =>
      have hbits : (BitVec.ofNat (8 * type.width) (littleEndian block.val)).toNat = placeSum block.val :=
        (toNat_littleEndian block).trans (littleEndian_eq_sum block.val)
      exact ⟨hbits, NumberType.quantity_eq_reading block.property hbits⟩
  | string => rfl

end Value

/-! ## Writing -/

namespace Value

/-- A number or a string gives back the bytes that it was read from. -/
theorem toBytes_ofBlock {type : Elementary} (htype : type ≠ .bool) (block : Block type.width) :
    (ofBlock type block).toBytes = block.val := by
  cases type with
  | bool => exact absurd rfl htype
  | number type =>
      have hlength : block.val.length = type.width := block.property
      have hbits : (BitVec.ofNat (8 * type.width) (littleEndian block.val)).toNat
          = littleEndian block.val := toNat_littleEndian block
      have hwrite := littleEndianBytes_littleEndian block.val
      rw [hlength] at hwrite
      rw [ofBlock, toBytes, hbits, hwrite]
  | string => rfl

/-- A truth value gives back one or zero, whatever byte it was read from. -/
theorem toBytes_ofBlock_bool {byte : UInt8} (block : Block Elementary.bool.width) (h : block.val = [byte]) :
    (ofBlock .bool block).toBytes = [if byte = 0 then 0 else 1] := by
  have hzero : byte.toNat = 0 ↔ byte = 0 := by
    rw [← UInt8.toNat_inj]
    rfl
  by_cases hbyte : byte = 0 <;> simp [ofBlock, toBytes, h, littleEndian, hzero, hbyte]

/-- Every value is read back from its own bytes. -/
theorem ofBlock_toBytes (value : Value) :
    ofBlock value.type ⟨value.toBytes, value.length_toBytes⟩ = value := by
  cases value with
  | bool b => cases b <;> rfl
  | number type bits =>
      have hread : littleEndian (littleEndianBytes type.width bits.toNat) = bits.toNat := by
        have hsmall : bits.toNat < 256 ^ type.width := by
          rw [← two_pow_bits]
          exact bits.isLt
        rw [littleEndian_littleEndianBytes, Nat.mod_eq_of_lt hsmall]
      change Value.number type (BitVec.ofNat _ (littleEndian (littleEndianBytes type.width bits.toNat))) = _
      rw [hread, BitVec.ofNat_toNat, BitVec.setWidth_eq]
  | string payload => rfl

end Value

/-! ## Decoding -/

/-- The value of a tag's unit, got from a buffer. -/
def Tag.get? (tag : Tag) (buffer : List UInt8) : Option (Value × List UInt8) :=
  tag.elementary?.bind fun type => type.get? buffer

/-- A unit of which all bytes are there is decoded from them and leaves what stands behind them. -/
theorem Elementary.decode_of_length_le (type : Elementary) {bytes : List UInt8}
    (h : type.width ≤ bytes.length) :
    type.decode bytes = ⟨.clean (.ofBlock type ⟨bytes.take type.width, List.length_take_of_le h⟩),
      type.width, bytes.drop type.width⟩ := by
  have hlength : (bytes.take type.width).length = type.width := List.length_take_of_le h
  have hgather : ByteSource.gather type.width bytes
      = .full ⟨bytes.take type.width, hlength⟩ (bytes.drop type.width) := by
    change gatherFront type.width bytes = _
    unfold gatherFront
    rw [dif_pos hlength]
  rw [decode, hgather]
  simp only [hlength]

/-- A value written in front of any bytes is decoded from them. -/
theorem Elementary.decode_toBytes_append (value : Value) (rest : List UInt8) :
    value.type.decode (value.toBytes ++ rest) = ⟨.clean value, value.type.width, rest⟩ := by
  have hlength := value.length_toBytes
  have hfront : (value.toBytes ++ rest).take value.type.width = value.toBytes := by
    rw [← hlength, List.take_left]
  have hbehind : (value.toBytes ++ rest).drop value.type.width = rest := by
    rw [← hlength, List.drop_left]
  rw [value.type.decode_of_length_le (by simp [hlength])]
  simp only [hfront, hbehind, value.ofBlock_toBytes]

/-- **The wire format.** A unit of a decodable tag whose bytes are all there is clean and takes exactly
    these. Its value has the tag, is spelled by the bytes and is what the getter of the tag makes of a
    buffer that holds nothing else. Written back it gives the bytes, or one for any truth value but
    zero. Nothing behind the bytes has a say in it, and every value of the tag is decoded from the bytes
    that it is written as. -/
theorem wire_format (tag : Tag) (htag : tag.isDecodable = true) (bytes : List UInt8)
    (hbytes : tag.payloadSize ≤ bytes.length) :
    (∃ value : Value,
        decode tag bytes = .ok ⟨.clean value, tag.payloadSize, bytes.drop tag.payloadSize⟩
          ∧ value.tag = tag
          ∧ value.SpelledBy (bytes.take tag.payloadSize)
          ∧ tag.get? (bytes.take tag.payloadSize) = some (value, [])
          ∧ (tag ≠ Elementary.bool.tag → value.toBytes = bytes.take tag.payloadSize)
          ∧ (tag = Elementary.bool.tag → ∃ byte,
              bytes.take tag.payloadSize = [byte] ∧ value.toBytes = [if byte = 0 then 0 else 1])
          ∧ ∀ other : List UInt8, other.take tag.payloadSize = bytes.take tag.payloadSize →
              decode tag other = .ok ⟨.clean value, tag.payloadSize, other.drop tag.payloadSize⟩)
      ∧ ∀ value : Value, value.tag = tag → ∀ rest : List UInt8,
          decode tag (value.toBytes ++ rest) = .ok ⟨.clean value, tag.payloadSize, rest⟩ := by
  obtain ⟨type, htype⟩ := Option.isSome_iff_exists.mp htag
  obtain rfl := Tag.elementary?_eq_some_iff.mp htype
  simp only [Elementary.payloadSize_tag, decode_tag] at hbytes ⊢
  constructor
  · have hfront : (bytes.take type.width).length = type.width := List.length_take_of_le hbytes
    refine ⟨.ofBlock type ⟨bytes.take type.width, hfront⟩, ?_, ?_, ?_, ?_, ?_, ?_, ?_⟩
    · rw [type.decode_of_length_le hbytes]
    · rw [Value.tag, Value.type_ofBlock]
    · exact Value.spelledBy_ofBlock type ⟨bytes.take type.width, hfront⟩
    · rw [Tag.get?, htype]
      exact type.get?_block ⟨bytes.take type.width, hfront⟩
    · intro hnumber
      exact Value.toBytes_ofBlock (fun hbool => hnumber (congrArg _ hbool)) _
    · intro hbool
      -- only the type of truth values has this tag
      obtain rfl : type = .bool := by
        rw [hbool, Elementary.elementary?_tag] at htype
        exact (Option.some.inj htype).symm
      obtain ⟨byte, hbyte⟩ := List.length_eq_one_iff.mp hfront
      exact ⟨byte, hbyte, Value.toBytes_ofBlock_bool _ hbyte⟩
    · intro other hother
      have hlong : type.width ≤ other.length := by
        rw [← hother, List.length_take] at hfront
        omega
      rw [type.decode_of_length_le hlong]
      simp only [hother]
  · intro value hvalue rest
    obtain rfl : value.type = type := by
      have hsame := Elementary.elementary?_tag value.type
      rw [show value.type.tag = type.tag from hvalue, type.elementary?_tag] at hsame
      exact (Option.some.inj hsame).symm
    rw [Elementary.decode_toBytes_append]

/-- A negative number of two bytes with one byte behind it. -/
theorem wire_format_of_minus_two :
    let tag : Tag := (Elementary.number .int).tag
    let bytes : List UInt8 := [0xFE, 0xFF, 0x07]
    tag.isDecodable = true ∧ tag.payloadSize ≤ bytes.length
      ∧ ∃ value : Value, decode tag bytes = .ok ⟨.clean value, 2, [0x07]⟩
          ∧ value = .number .int (-2) ∧ NumberType.int.quantity (-2) = .whole (-2)
          ∧ value.toBytes = [0xFE, 0xFF] := by
  intro tag bytes
  have hdecodable : tag.isDecodable = true := by decide
  have hlength : tag.payloadSize ≤ bytes.length := by decide
  obtain ⟨value, hdecode, -, hspelled, hgot, hwrite, -⟩ := (wire_format tag hdecodable bytes hlength).1
  have hvalue : tag.get? (bytes.take tag.payloadSize) = some (.number .int (-2), []) := by decide
  have hsame : value = .number .int (-2) := congrArg Prod.fst (Option.some.inj (hgot.symm.trans hvalue))
  have hquantity : NumberType.int.quantity (-2) = .whole (-2) := by
    rw [hsame] at hspelled
    have hreading : twosComplement [0xFE, 0xFF] = -2 := by decide
    exact hspelled.2.trans (congrArg Quantity.whole hreading)
  exact ⟨hdecodable, hlength, value, hdecode, hsame, hquantity, hwrite (by decide)⟩

end CipUnits
