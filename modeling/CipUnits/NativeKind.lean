import CipUnits.Tag.Basic
import CipUnits.Text.Blank
import CipUnits.Text.Caseless

/-!
# `CipUnits.NativeKind` — kinds of native values and the tags they travel under

Every kind of value a program may hold is classified onto a tag. The map is total: text and records
travel as structures, and a kind without a fixed width has the tag for no type.
-/

namespace CipUnits

/-- The shape of a native value, whatever its content. -/
inductive NativeKind where
  | bool | u8 | i8 | u16 | i16 | u32 | i32 | u64 | i64 | f32 | f64
  | text | structured | usize | isize | u128 | i128 | char
deriving DecidableEq, Repr

namespace NativeKind

/-- All kinds, in the order of their definition. -/
def all : List NativeKind :=
  [bool, u8, i8, u16, i16, u32, i32, u64, i64, f32, f64, text, structured, usize, isize, u128, i128, char]

/-- The name of a kind. -/
def name : NativeKind → String
  | bool => "bool"
  | u8 => "u8"
  | i8 => "i8"
  | u16 => "u16"
  | i16 => "i16"
  | u32 => "u32"
  | i32 => "i32"
  | u64 => "u64"
  | i64 => "i64"
  | f32 => "f32"
  | f64 => "f64"
  | text => "text"
  | structured => "structured"
  | usize => "usize"
  | isize => "isize"
  | u128 => "u128"
  | i128 => "i128"
  | char => "char"

/-- The wire type that values of a kind travel as. -/
def wireType : NativeKind → WireType
  | bool => .elementary .bool
  | u8 => .elementary (.number .usint)
  | i8 => .elementary (.number .sint)
  | u16 => .elementary (.number .uint)
  | i16 => .elementary (.number .int)
  | u32 => .elementary (.number .udint)
  | i32 => .elementary (.number .dint)
  | u64 => .elementary (.number .lword)
  | i64 => .elementary (.number .lint)
  | f32 => .elementary (.number .real)
  | f64 => .elementary (.number .lreal)
  | text | structured => .struct
  | usize | isize | u128 | i128 | char => .unknown

/-- The tag that values of a kind travel under. -/
def tag (kind : NativeKind) : Tag := .ofWireType kind.wireType

/-- The kind of a name, whatever the case of its letters and the white space around it. -/
def ofName? (name : String) : Option NativeKind :=
  all.find? fun kind => Text.sameIgnoringCase kind.name.toList (Text.trim name.toList)

end NativeKind

/-- The native kind of a number. -/
def NumberType.kind : NumberType → NativeKind
  | byte | usint => .u8
  | sint => .i8
  | int => .i16
  | dint => .i32
  | lint => .i64
  | uint | word => .u16
  | udint | dword => .u32
  | lword => .u64
  | real => .f32
  | lreal => .f64

/-- The native kind of one unit. -/
def Elementary.kind : Elementary → NativeKind
  | bool => .bool
  | number type => type.kind
  | string => .text

end CipUnits
