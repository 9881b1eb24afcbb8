import CipUnits.Value.Basic

/-!
# `CipUnits.Value.Narrow` — values as native ones

A value narrows to a native type if it carries exactly that type; nothing is converted. Floating-point
numbers are handed over as their bits.

## Contents
- `Target` — the native types a value can be asked for; `Target.Carrier` — their values.
- `Value.narrow`, with `Mismatch` for a value that carries another type.
-/

namespace CipUnits

/-- The native types a value can be narrowed to. -/
inductive Target where
  | bool | u8 | i8 | u16 | i16 | u32 | i32 | u64 | i64 | f32 | f64
  /-- The bytes of a string. -/
  | payload
deriving DecidableEq, Repr

namespace Target

/-- All targets. -/
def all : List Target := [bool, u8, i8, u16, i16, u32, i32, u64, i64, f32, f64, payload]

/-- The native kind asked for, if it is one of the classified kinds. -/
def kind? : Target → Option NativeKind
  | bool => some .bool
  | u8 => some .u8
  | i8 => some .i8
  | u16 => some .u16
  | i16 => some .i16
  | u32 => some .u32
  | i32 => some .i32
  | u64 => some .u64
  | i64 => some .i64
  | f32 => some .f32
  | f64 => some .f64
  | payload => none

/-- The name of a target in messages. -/
def name (target : Target) : String := (target.kind?.map NativeKind.name).getD "string payload"

/-- The values of a target. -/
def Carrier : Target → Type
  | bool => Bool
  | u8 => UInt8
  | i8 => Int8
  | u16 => UInt16
  | i16 => Int16
  | u32 => UInt32
  | i32 => Int32
  | u64 => UInt64
  | i64 => Int64
  | f32 => BitVec 32
  | f64 => BitVec 64
  | payload => Payload

end Target

/-- A value of one type was asked for as another. -/
structure Mismatch where
  actual : Tag
  expected : Target
deriving DecidableEq, Repr

/-- The message that names both types. -/
def Mismatch.message (e : Mismatch) : String :=
  "value of type " ++ e.actual.label ++ " cannot be read as " ++ e.expected.name

/-- The value as one of the target's, if that is what it carries. -/
def Value.narrow : (target : Target) → Value → Except Mismatch target.Carrier
  | .bool, .bool b => .ok b
  | .u8, .number .byte bits | .u8, .number .usint bits => .ok (UInt8.ofBitVec bits)
  | .i8, .number .sint bits => .ok (Int8.ofBitVec bits)
  | .u16, .number .uint bits | .u16, .number .word bits => .ok (UInt16.ofBitVec bits)
  | .i16, .number .int bits => .ok (Int16.ofBitVec bits)
  | .u32, .number .udint bits | .u32, .number .dword bits => .ok (UInt32.ofBitVec bits)
  | .i32, .number .dint bits => .ok (Int32.ofBitVec bits)
  | .u64, .number .lword bits => .ok (UInt64.ofBitVec bits)
  | .i64, .number .lint bits => .ok (Int64.ofBitVec bits)
  | .f32, .number .real bits => .ok bits
  | .f64, .number .lreal bits => .ok bits
  | .payload, .string payload => .ok payload
  | target, value => .error ⟨value.tag, target⟩

end CipUnits
