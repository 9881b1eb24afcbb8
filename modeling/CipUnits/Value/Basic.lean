import CipUnits.Bytes.LittleEndian
import CipUnits.NativeKind
import CipUnits.Number.Binary

/-!
# `CipUnits.Value.Basic` — one decoded unit

A value is a truth value, a number of one of the numeric types held as its bits, or the payload of a
string. Its bytes are little-endian on the wire.

## Contents
- `Value`, with type, tag and native kind.
- `Value.ofBlock` reads the bytes of one unit; `Value.toBytes` writes them.
- `NumberType.quantity` — what the bits of a number stand for.
- `Value.zero` and `Value.isZero`.
-/

namespace CipUnits

/-- The bytes of a string on the wire: the length, then the area of its characters. -/
abbrev Payload := Block stringWidth

/-- One decoded unit. -/
inductive Value where
  | bool (b : Bool)
  | number (type : NumberType) (bits : BitVec (8 * type.width))
  | string (payload : Payload)
deriving DecidableEq

namespace Value

/-- The type of a value. -/
def type : Value → Elementary
  | bool _ => .bool
  | number type _ => .number type
  | string _ => .string

/-- The tag of a value. -/
def tag (value : Value) : Tag := value.type.tag

/-- The native kind of a value. -/
def kind (value : Value) : NativeKind := value.type.kind

end Value

/-! ## Values as bytes -/

/-- The value that the bytes of one unit spell. Any byte but zero is the truth value `true`. -/
def Value.ofBlock : (type : Elementary) → Block type.width → Value
  | .bool, block => .bool (littleEndian block.val != 0)
  | .number type, block => .number type (BitVec.ofNat _ (littleEndian block.val))
  | .string, block => .string block

/-- The bytes of a value. -/
def Value.toBytes : Value → List UInt8
  | bool b => [if b then 1 else 0]
  | number type bits => littleEndianBytes type.width bits.toNat
  | string payload => payload.val

@[simp] theorem Value.type_ofBlock (type : Elementary) (block : Block type.width) :
    (Value.ofBlock type block).type = type := by
  cases type <;> rfl

@[simp] theorem Value.length_toBytes (value : Value) : value.toBytes.length = value.type.width := by
  cases value with
  | bool b => rfl
  | number type bits => exact length_littleEndianBytes _ _
  | string payload => exact payload.property

/-! ## What numbers stand for -/

/-- How the bits of a number are taken. -/
inductive Interpretation where
  | unsigned
  /-- In two's complement. -/
  | signed
  | binary (format : Binary.Format)

/-- How the bits of each numeric type are taken. -/
def NumberType.interpretation : NumberType → Interpretation
  | byte | usint | uint | udint | lword | word | dword => .unsigned
  | sint | int | dint | lint => .signed
  | real => .binary .single
  | lreal => .binary .double

/-- What a number stands for. -/
inductive Quantity where
  | whole (i : Int)
  | binary (format : Binary.Format) (reading : Binary.Reading)

/-- What the bits of a numeric type stand for. -/
def NumberType.quantity (type : NumberType) (bits : BitVec (8 * type.width)) : Quantity :=
  match type.interpretation with
  | .unsigned => .whole bits.toNat
  | .signed => .whole bits.toInt
  | .binary format => .binary format (format.read bits.toNat)

/-! ## Zero -/

/-- The zero of a type; that of strings has no byte set. -/
def Value.zero : Elementary → Value
  | .bool => .bool false
  | .number type => .number type 0
  | .string => .string (Block.zeros _)

/-- Whether a value equals the zero of its type as values compare: a floating-point zero of either sign
    does, and a string only if no byte of it is set. -/
def Value.isZero : Value → Bool
  | bool b => !b
  | number type bits =>
      match type.interpretation with
      | .unsigned | .signed => bits == 0
      | .binary format => format.isZeroPattern bits.toNat
  | string payload => payload.val.all (· == 0)

@[simp] theorem Value.type_zero (type : Elementary) : (Value.zero type).type = type := by
  cases type <;> rfl

end CipUnits
