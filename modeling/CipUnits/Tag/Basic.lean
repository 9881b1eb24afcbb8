import CipUnits.Text.Numeral

/-!
# `CipUnits.Tag.Basic` — wire type tags

A tag is the byte that precedes a value on the wire. Any byte is a tag, so that one can be carried
about before it is checked; seventeen of them are recognised as wire types, and fifteen of these are
elementary: one unit of them is decoded by itself.

## Contents
- `NumberType` — the thirteen numeric types, with width and interpretation.
- `Elementary` — the types decoded by the unit: a truth value, a number or a string.
- `WireType` — everything with a code of its own, in the order of the code table.
- `Tag` — the byte, with name, label and sizes.
-/

namespace CipUnits

/-! ## Elementary types -/

/-- The numeric types, in the order of the code table. -/
inductive NumberType where
  | byte | sint | int | dint | lint | usint | uint | udint | lword | real | lreal | word | dword
deriving DecidableEq, Repr

/-- The width of a number in bytes. -/
def NumberType.width : NumberType → Nat
  | byte | sint | usint => 1
  | int | uint | word => 2
  | dint | udint | real | dword => 4
  | lint | lword | lreal => 8

/-- The bytes of a string's length. -/
def stringLengthWidth : Nat := 4

/-- The bytes that hold a string's characters. -/
def stringAreaWidth : Nat := 82

/-- The bytes of a string: its length, then the area of its characters. -/
def stringWidth : Nat := stringLengthWidth + stringAreaWidth

/-- The types of which one unit is decoded by itself. -/
inductive Elementary where
  | bool
  | number (type : NumberType)
  | string
deriving DecidableEq, Repr

/-- The bytes that one unit takes. -/
def Elementary.width : Elementary → Nat
  | bool => 1
  | number type => type.width
  | string => stringWidth

/-! ## Wire types -/

/-- The types with a code of their own. -/
inductive WireType where
  /-- Stands for a type that has no counterpart on the wire. -/
  | unknown
  /-- A structure; controllers send strings in this form. -/
  | struct
  | elementary (type : Elementary)
deriving DecidableEq, Repr

namespace WireType

/-- All wire types, in the order of the code table. -/
def all : List WireType :=
  [unknown, struct, elementary .bool, elementary (.number .byte), elementary (.number .sint),
    elementary (.number .int), elementary (.number .dint), elementary (.number .lint),
    elementary (.number .usint), elementary (.number .uint), elementary (.number .udint),
    elementary (.number .lword), elementary (.number .real), elementary (.number .lreal),
    elementary (.number .word), elementary (.number .dword), elementary .string]

/-- The code of a type. That of a string marks a structure as text and is never sent. -/
def code : WireType → UInt8
  | unknown => 0x00
  | struct => 0xA0
  | elementary .bool => 0xC1
  | elementary (.number .sint) => 0xC2
  | elementary (.number .int) => 0xC3
  | elementary (.number .dint) => 0xC4
  | elementary (.number .lint) => 0xC5
  | elementary (.number .usint) => 0xC6
  | elementary (.number .uint) => 0xC7
  | elementary (.number .udint) => 0xC8
  | elementary (.number .lword) => 0xC9
  | elementary (.number .real) => 0xCA
  | elementary (.number .lreal) => 0xCB
  | elementary (.number .byte) => 0xD1
  | elementary (.number .word) => 0xD2
  | elementary (.number .dword) => 0xD3
  | elementary .string => 0xDA

/-- The name of a type. -/
def name : WireType → String
  | unknown => "Unknown"
  | struct => "Struct"
  | elementary .bool => "BOOL"
  | elementary (.number .byte) => "BYTE"
  | elementary (.number .sint) => "SINT"
  | elementary (.number .int) => "INT"
  | elementary (.number .dint) => "DINT"
  | elementary (.number .lint) => "LINT"
  | elementary (.number .usint) => "USINT"
  | elementary (.number .uint) => "UINT"
  | elementary (.number .udint) => "UDINT"
  | elementary (.number .lword) => "LWORD"
  | elementary (.number .real) => "REAL"
  | elementary (.number .lreal) => "LREAL"
  | elementary (.number .word) => "WORD"
  | elementary (.number .dword) => "DWORD"
  | elementary .string => "String"

/-- The nominal size of one unit. A string counts as one byte, whatever its payload. -/
def size : WireType → Nat
  | unknown => 0
  | struct => 88
  | elementary .string => 1
  | elementary type => type.width

/-- The bytes that one unit takes on the wire. -/
def payloadSize : WireType → Nat
  | elementary type => type.width
  | type => type.size

end WireType

/-! ## Tags -/

/-- A type tag: one byte, recognised or not. -/
structure Tag where
  code : UInt8
deriving DecidableEq, Repr

/-- The tag of an elementary type. -/
def Elementary.tag (type : Elementary) : Tag := ⟨(WireType.elementary type).code⟩

/-- The name of an elementary type. -/
def Elementary.name (type : Elementary) : String := (WireType.elementary type).name

namespace Tag

/-- The tag of a wire type. -/
def ofWireType (type : WireType) : Tag := ⟨type.code⟩

/-- The recognised tags, in the order of the code table. -/
def all : List Tag := WireType.all.map ofWireType

/-- The tag that stands for no type. -/
def unknown : Tag := ofWireType .unknown

/-- The tag that nothing else was said of is the one for no type. -/
instance : Inhabited Tag := ⟨unknown⟩

/-- The wire type a tag stands for, if it is recognised. -/
def wireType? (tag : Tag) : Option WireType := WireType.all.find? (·.code == tag.code)

/-- The elementary type a tag stands for, if it can be decoded by the unit. -/
def elementary? (tag : Tag) : Option Elementary :=
  match tag.wireType? with
  | some (.elementary type) => some type
  | _ => none

/-- Whether a tag is recognised. -/
def isKnown (tag : Tag) : Bool := tag.wireType?.isSome

/-- Whether one unit of a tag can be decoded by itself. -/
def isDecodable (tag : Tag) : Bool := tag.elementary?.isSome

/-- Whether a tag is that of a truth value or a number. -/
def isScalar (tag : Tag) : Bool :=
  match tag.elementary? with
  | some .bool | some (.number _) => true
  | _ => false

/-- The name of a tag; an unrecognised one has that of the unknown type. -/
def name (tag : Tag) : String := (tag.wireType?.getD .unknown).name

/-- The code in hexadecimal, with its marker. -/
def hexCode (tag : Tag) : String := "0x" ++ Text.hexByte tag.code

/-- Code and name of a tag, as they stand in messages. All unrecognised tags share one label. -/
def label (tag : Tag) : String :=
  if tag.isKnown then tag.hexCode ++ " - " ++ tag.name else "0 - Unknown"

/-- A form that tells any two tags apart: the name if there is one, else the code. -/
def debugText (tag : Tag) : String :=
  if tag.isKnown then "CipType::" ++ tag.name.map Char.toUpper else "CipType(" ++ tag.hexCode ++ ")"

/-- The nominal size of one unit; zero if the tag is not recognised. -/
def size (tag : Tag) : Nat := (tag.wireType?.map WireType.size).getD 0

/-- The bytes that one unit takes on the wire; zero if the tag is not recognised. -/
def payloadSize (tag : Tag) : Nat := (tag.wireType?.map WireType.payloadSize).getD 0

/-- A zeroed buffer of the nominal size of one unit. -/
def buffer (tag : Tag) : List UInt8 := List.replicate tag.size 0

/-- Tags in the order of their codes. -/
def sort (tags : List Tag) : List Tag := tags.mergeSort (·.code ≤ ·.code)

end Tag

/-! ## Recognition -/

theorem WireType.mem_all (type : WireType) : type ∈ WireType.all := by
  cases type with
  | unknown | struct => decide
  | elementary type =>
      cases type with
      | bool | string => decide
      | number type => cases type <;> decide

/-- Every wire type is recognised by its tag: no two share a code. -/
@[simp] theorem Tag.wireType?_ofWireType (type : WireType) :
    (Tag.ofWireType type).wireType? = some type := by
  cases type with
  | unknown | struct => rfl
  | elementary type =>
      cases type with
      | bool | string => rfl
      | number type => cases type <;> rfl

@[simp] theorem Elementary.elementary?_tag (type : Elementary) : type.tag.elementary? = some type := by
  have h : type.tag.wireType? = some (.elementary type) := Tag.wireType?_ofWireType (.elementary type)
  simp [Tag.elementary?, h]

/-- No two elementary types share a tag. -/
theorem Elementary.tag_inj {type other : Elementary} : type.tag = other.tag ↔ type = other := by
  refine ⟨fun h => ?_, congrArg Elementary.tag⟩
  have hsame : type.tag.elementary? = other.tag.elementary? := congrArg Tag.elementary? h
  rwa [type.elementary?_tag, other.elementary?_tag, Option.some_inj] at hsame

/-- A decodable tag is the tag of its type. -/
theorem Tag.elementary?_eq_some_iff {tag : Tag} {type : Elementary} :
    tag.elementary? = some type ↔ tag = type.tag := by
  constructor
  · intro h
    have hwire : tag.wireType? = some (.elementary type) := by
      unfold Tag.elementary? at h
      split at h <;> simp_all
    have hcode := List.find?_some hwire
    cases tag
    simpa [Elementary.tag] using (beq_iff_eq.mp hcode).symm
  · rintro rfl
    exact type.elementary?_tag

@[simp] theorem Elementary.isDecodable_tag (type : Elementary) : type.tag.isDecodable = true := by
  simp [Tag.isDecodable]

/-- A tag is decodable exactly if it is that of an elementary type. -/
theorem Tag.isDecodable_iff {tag : Tag} :
    tag.isDecodable = true ↔ ∃ type : Elementary, tag = type.tag := by
  constructor
  · intro h
    obtain ⟨type, htype⟩ := Option.isSome_iff_exists.mp h
    exact ⟨type, Tag.elementary?_eq_some_iff.mp htype⟩
  · rintro ⟨type, rfl⟩
    exact type.isDecodable_tag

@[simp] theorem Elementary.payloadSize_tag (type : Elementary) : type.tag.payloadSize = type.width := by
  have h : type.tag.wireType? = some (.elementary type) := Tag.wireType?_ofWireType (.elementary type)
  simp [Tag.payloadSize, h, WireType.payloadSize]

end CipUnits
