import CipUnits.Source.Basic
import CipUnits.Value.Basic

/-!
# `CipUnits.Decode` — one unit from a source

Decoding a unit never fails on the source: where the bytes do not arrive, the fault is reported and the
zero of the type stands for the value. Only a tag that names no elementary type is refused, and then
nothing is read.

## Contents
- `Fault` — a unit that was not read, with its message.
- `Decoded` — a clean value, or a fault with the zero value.
- `Elementary.decode`, and `decode` by tag, which refuses exactly the tags that are not decodable.
- `decodeAll` — one tag after another from the front of a byte list.
-/

namespace CipUnits

/-! ## Faults -/

/-- A unit of which not all bytes arrived. -/
structure Fault where
  type : Elementary
  failure : Failure
deriving DecidableEq, Repr

namespace Fault

/-- The tag of the unit. -/
def tag (fault : Fault) : Tag := fault.type.tag

/-- The native type that the unit would have become. -/
def native (fault : Fault) : String :=
  match fault.type with
  | .string => "[u8; " ++ Nat.repr stringWidth ++ "]"
  | type => type.kind.name

/-- The bytes that the unit takes. -/
def expected (fault : Fault) : Nat := fault.type.width

/-- Whether the source was at its end before the unit was complete. -/
def isShortRead (fault : Fault) : Bool := fault.failure.kind == .endOfInput

/-- The message that names the unit and what stopped it. -/
def message (fault : Fault) : String :=
  "problem reading " ++ fault.tag.label ++ " as one unit of " ++ fault.native ++ " ("
    ++ Nat.repr fault.expected ++ " bytes): " ++ fault.failure.message

end Fault

/-! ## Decoded units -/

/-- What decoding a unit came to. -/
inductive Decoded where
  | clean (value : Value)
  | faulty (fault : Fault)
deriving DecidableEq

namespace Decoded

/-- The value, which is the zero of the type if the unit was not read. -/
def value : Decoded → Value
  | clean value => value
  | faulty fault => .zero fault.type

/-- The fault of a unit that was not read. -/
def fault? : Decoded → Option Fault
  | clean _ => none
  | faulty fault => some fault

/-- Whether the unit was read. -/
def isClean : Decoded → Bool
  | clean _ => true
  | faulty _ => false

/-- Whether the input ended before the unit was complete. -/
def metEnd (unit : Decoded) : Bool := unit.fault?.any Fault.isShortRead

end Decoded

/-- A unit decoded from a source, with the number of bytes taken and the source after it. -/
structure Decoding (σ : Type) where
  unit : Decoded
  used : Nat
  rest : σ

/-- Decodes the next unit of an elementary type. -/
def Elementary.decode {σ : Type} [ByteSource σ] (type : Elementary) (source : σ) : Decoding σ :=
  match ByteSource.gather type.width source with
  | .full block rest => ⟨.clean (.ofBlock type block), block.val.length, rest⟩
  | .cut taken why rest => ⟨.faulty ⟨type, why⟩, taken.length, rest⟩

section

variable {σ : Type} [ByteSource σ]

@[simp] theorem Elementary.used_decode (type : Elementary) (source : σ) :
    (type.decode source).used = (ByteSource.gather type.width source).bytes.length := by
  unfold Elementary.decode
  split <;> rename_i h <;> rw [h] <;> rfl

@[simp] theorem Elementary.rest_decode (type : Elementary) (source : σ) :
    (type.decode source).rest = (ByteSource.gather type.width source).rest := by
  unfold Elementary.decode
  split <;> rename_i h <;> rw [h] <;> rfl

/-- A unit faults exactly where its bytes were cut off, and with that failure. -/
@[simp] theorem Elementary.fault?_decode (type : Elementary) (source : σ) :
    (type.decode source).unit.fault?
      = (ByteSource.gather type.width source).failure?.map fun why => ⟨type, why⟩ := by
  unfold Elementary.decode
  split <;> rename_i h <;> rw [h] <;> rfl

@[simp] theorem Elementary.type_value_decode (type : Elementary) (source : σ) :
    (type.decode source).unit.value.type = type := by
  unfold Elementary.decode
  split
  · exact Value.type_ofBlock type _
  · exact Value.type_zero type

end

/-- A tag of which no unit can be decoded by itself. -/
structure UnsupportedTag where
  tag : Tag
deriving DecidableEq, Repr

/-- The message that names the tag. -/
def UnsupportedTag.message (e : UnsupportedTag) : String :=
  "unsupported tag " ++ e.tag.label ++ ": cannot decode as one unit"

/-- Decodes the next unit of a tag. -/
def decode {σ : Type} [ByteSource σ] (tag : Tag) (source : σ) : Except UnsupportedTag (Decoding σ) :=
  match tag.elementary? with
  | none => .error ⟨tag⟩
  | some type => .ok (type.decode source)

section

variable {σ : Type} [ByteSource σ]

@[simp] theorem decode_tag (type : Elementary) (source : σ) :
    decode type.tag source = .ok (type.decode source) := by
  simp [decode]

/-- A tag is refused exactly if it is not decodable, whatever the source. -/
theorem decode_eq_error_iff {tag : Tag} {source : σ} {e : UnsupportedTag} :
    decode tag source = .error e ↔ tag.isDecodable = false ∧ e = ⟨tag⟩ := by
  unfold decode Tag.isDecodable
  cases tag.elementary? with
  | none =>
      constructor
      · rintro ⟨⟩
        exact ⟨rfl, rfl⟩
      · rintro ⟨_, rfl⟩
        rfl
  | some type => simp

/-- What is decoded under a tag is a unit of the type that the tag stands for. -/
theorem decode_eq_ok_iff {tag : Tag} {source : σ} {decoding : Decoding σ} :
    decode tag source = .ok decoding ↔ ∃ type : Elementary, tag = type.tag ∧ decoding = type.decode source := by
  constructor
  · intro h
    unfold decode at h
    cases htag : tag.elementary? with
    | none =>
        rw [htag] at h
        cases h
    | some type =>
        rw [htag] at h
        exact ⟨type, Tag.elementary?_eq_some_iff.mp htag, (Except.ok.inj h).symm⟩
  · rintro ⟨type, rfl, rfl⟩
    exact decode_tag type source

end

/-- Decodes one unit after another from the front of a byte list, each from what the one before left.
    A refused tag takes nothing. The bytes left at the end come second. -/
def decodeAll : List Tag → List UInt8 → List (Except UnsupportedTag (Decoding (List UInt8))) × List UInt8
  | [], bytes => ([], bytes)
  | tag :: tags, bytes =>
      let first := decode tag bytes
      let left := match first with
        | .ok decoding => decoding.rest
        | .error _ => bytes
      let (later, rest) := decodeAll tags left
      (first :: later, rest)

end CipUnits
