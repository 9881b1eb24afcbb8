import CipUnits.Proofs.WireFormat

/-!
# `CipUnits.Proofs.Narrowing` — bytes under a tag and under the classified one

What native type a value is good for is said in five places that do not refer to one another. A kind is
classified onto a tag (`NativeKind.wireType`), a native type has a kind (`Target.kind?`), so has a value
(`Elementary.kind`), a value is handed over by a table of its own (`Value.narrow`), and bytes become a
value by yet another (`Value.ofBlock`). A slip in one entry would not fail: it would hand over a number
of the wrong width or sign.

Here all of them are held against one function, the target of a type (`Elementary.target`). A value is
handed over to the target of its type and to no other, and as what this target reads off the bytes
(`narrow_ofBlock`). No tag occurs in that reading. So the types that share a target, such as the two of
sixteen bits without a sign, cannot be told apart by what they hand over, and the one that the kind is
classified onto may stand for the others.

## Contents
- **Targets.** `Elementary.target` and `Target.exists_classified`; a target is known by its kind.
- **Handing over.** `narrow_ofBlock`, `narrow_of_ne` and `accepts_iff`; types that share a target
  (`exists_decode_of_target_eq`).
- `narrowing_law` — every target, every tag, all bytes.
-/

namespace CipUnits

/-! ## Targets -/

/-- The native kind of the units of a tag, if any can be decoded. -/
def Tag.kind? (tag : Tag) : Option NativeKind := tag.elementary?.map Elementary.kind

namespace Elementary

/-- The target of the values of a type. A truth value is read by the getter of a byte, but is not handed
    over as one. -/
def target : Elementary → Target
  | bool => .bool
  | type => type.native

theorem width_target (type : Elementary) : type.target.width = type.width := by
  cases type with
  | bool => rfl
  | number type => exact (number type).width_native
  | string => exact string.width_native

/-- A type and its target are of one kind. Strings are not asked for by their kind. -/
theorem kind?_target {type : Elementary} (h : type ≠ .string) : type.target.kind? = some type.kind := by
  cases type with
  | bool => rfl
  | number type => cases type <;> rfl
  | string => exact absurd rfl h

end Elementary

namespace Target

theorem mem_all (target : Target) : target ∈ all := by cases target <;> decide

/-- A target is known by its kind, the payload by having none. -/
theorem kind?_inj {a b : Target} (h : a.kind? = b.kind?) : a = b := by
  have htable : ∀ a ∈ all, ∀ b ∈ all, a.kind? = b.kind? → a = b := by decide
  exact htable a a.mem_all b b.mem_all h

/-- The kind of a target is classified onto the tag of a type that has this target. -/
theorem exists_classified {target : Target} {kind : NativeKind} (h : target.kind? = some kind) :
    ∃ type : Elementary, kind.tag = type.tag ∧ type.target = target := by
  have hwire : ∃ type : Elementary, kind.wireType = .elementary type ∧ type.target = target := by
    cases target <;> cases h <;> exact ⟨_, rfl, rfl⟩
  obtain ⟨type, htype, htarget⟩ := hwire
  exact ⟨type, congrArg Tag.ofWireType htype, htarget⟩

/-- A target of a kind is that of a type exactly if the type is of this kind. -/
theorem eq_target_iff {target : Target} {kind : NativeKind} (h : target.kind? = some kind)
    (type : Elementary) : target = type.target ↔ type.kind = kind := by
  by_cases hstring : type = .string
  · -- the payload has no kind, and no target has that of a text
    subst hstring
    cases target <;> cases h <;> decide
  · have hkind := Elementary.kind?_target hstring
    constructor
    · rintro rfl
      exact Option.some.inj (hkind.symm.trans h)
    · rintro rfl
      exact kind?_inj (h.trans hkind.symm)

/-- Only strings have the payload as their target. -/
theorem payload_eq_target_iff {type : Elementary} : payload = type.target ↔ type = .string := by
  constructor
  · intro h
    by_contra hstring
    -- all other targets have a kind
    have hkind := Elementary.kind?_target hstring
    rw [← h] at hkind
    cases hkind
  · rintro rfl
    rfl

end Target

/-! ## Handing over -/

/-- Whether a value is handed over to a target. -/
def Target.Accepts (target : Target) (value : Value) : Prop := ∃ native, value.narrow target = .ok native

namespace Value

/-- **What is handed over** to the target of a type is what the target makes of the bytes. -/
theorem narrow_ofBlock {type : Elementary} (block : Block type.width) {target : Target}
    (htarget : target = type.target) (hwidth : block.val.length = target.width) :
    (ofBlock type block).narrow target = .ok (target.ofBlock ⟨block.val, hwidth⟩) := by
  subst htarget
  cases type with
  | bool | string => rfl
  | number type => cases type <;> rfl

/-- Every other target is refused, by the tag of the value. -/
theorem narrow_of_ne {value : Value} {target : Target} (h : target ≠ value.type.target) :
    value.narrow target = .error ⟨value.tag, target⟩ := by
  -- all rows of the table but the last are those of a type and its own target
  fun_cases narrow target value with
  | case16 => rw [narrow] <;> assumption
  | _ => exact absurd rfl h

/-- **One target.** A value is handed over to the target of its type and to no other. -/
theorem accepts_iff {value : Value} {target : Target} :
    target.Accepts value ↔ target = value.type.target := by
  constructor
  · rintro ⟨native, hnative⟩
    by_contra hne
    rw [narrow_of_ne hne] at hnative
    cases hnative
  · rintro rfl
    have hlength : value.toBytes.length = value.type.width := value.length_toBytes
    have hwidth : value.toBytes.length = value.type.target.width :=
      hlength.trans value.type.width_target.symm
    have hnarrow := narrow_ofBlock ⟨value.toBytes, hlength⟩ rfl hwidth
    rw [ofBlock_toBytes] at hnarrow
    exact ⟨_, hnarrow⟩

/-- A value that refuses a target says its tag and the target. -/
theorem eq_of_narrow_error {value : Value} {target : Target} {e : Mismatch}
    (h : value.narrow target = .error e) : e = ⟨value.tag, target⟩ := by
  have hne : target ≠ value.type.target := by
    intro htarget
    obtain ⟨native, hnative⟩ := accepts_iff.mpr htarget
    rw [hnative] at h
    cases h
  rw [narrow_of_ne hne] at h
  exact (Except.error.inj h).symm

end Value

namespace Elementary

/-- A unit of which all bytes are there is handed over to its target as what this gets from them. -/
theorem exists_decode_narrow (type : Elementary) {bytes : List UInt8} {target : Target}
    (hbytes : type.width ≤ bytes.length) (htarget : target = type.target) :
    ∃ value native, type.decode bytes = ⟨.clean value, type.width, bytes.drop type.width⟩
      ∧ value.narrow target = .ok native
      ∧ target.get? bytes = some (native, bytes.drop type.width) := by
  have hsize : target.width = type.width := htarget ▸ type.width_target
  have hfront : (bytes.take type.width).length = type.width := List.length_take_of_le hbytes
  have hwidth : (bytes.take target.width).length = target.width := by rw [hsize, hfront]
  refine ⟨.ofBlock type ⟨bytes.take type.width, hfront⟩,
    target.ofBlock ⟨bytes.take target.width, hwidth⟩, type.decode_of_length_le hbytes, ?_, ?_⟩
  · rw [Value.narrow_ofBlock _ htarget (hfront.trans hsize.symm)]
    simp only [hsize]
  · rw [Target.get?, dif_pos hwidth, ← hsize]

/-- **Types that share a target** take the same bytes and hand over the same, since what a target gets from
    the bytes does not depend on the type. -/
theorem exists_decode_of_target_eq {type other : Elementary} {bytes : List UInt8}
    {native : type.target.Carrier} (hshared : other.target = type.target)
    (hbytes : type.width ≤ bytes.length)
    (hget : type.target.get? bytes = some (native, bytes.drop type.width)) :
    ∃ value, other.decode bytes = ⟨.clean value, type.width, bytes.drop type.width⟩
      ∧ value.narrow type.target = .ok native := by
  have hwidth : other.width = type.width := by
    rw [← other.width_target, hshared, type.width_target]
  obtain ⟨value, same, hdecode, hnarrow, hgot⟩ :=
    other.exists_decode_narrow (hwidth ▸ hbytes) hshared.symm
  obtain rfl : same = native := by
    rw [hget] at hgot
    exact congrArg Prod.fst (Option.some.inj hgot.symm)
  rw [hwidth] at hdecode
  exact ⟨value, hdecode, hnarrow⟩

end Elementary

/-! ## The law -/

/-- **Narrowing.** A unit of a decodable tag whose bytes are all there is handed over to the target of a
    kind exactly if the units of the tag are of this kind. What is handed over is what the target gets from
    the front of the bytes, and it is the same when they are decoded under the tag that the kind is
    classified onto, which takes as many of them. Under that tag, every source whatever gives values that
    the target accepts. Every value decoded, also the zero that stands for a unit that was not read, has
    exactly one target, which is the payload for strings only, and all others refuse it by its tag. -/
theorem narrowing_law {σ : Type} [ByteSource σ] :
    (∀ (tag : Tag) (bytes : List UInt8), tag.isDecodable = true → tag.payloadSize ≤ bytes.length →
        ∃ value : Value,
          decode tag bytes = .ok ⟨.clean value, tag.payloadSize, bytes.drop tag.payloadSize⟩
            ∧ tag.kind? = some value.kind
            ∧ ∀ (target : Target) (kind : NativeKind), target.kind? = some kind →
                (target.Accepts value ↔ tag.kind? = some kind)
                  ∧ ∀ native, value.narrow target = .ok native →
                      target.get? bytes = some (native, bytes.drop tag.payloadSize)
                        ∧ ∃ other : Value,
                          decode kind.tag bytes
                              = .ok ⟨.clean other, tag.payloadSize, bytes.drop tag.payloadSize⟩
                            ∧ other.narrow target = .ok native)
      ∧ (∀ (target : Target) (kind : NativeKind), target.kind? = some kind → ∀ source : σ,
          ∃ decoding, decode kind.tag source = .ok decoding ∧ target.Accepts decoding.unit.value)
      ∧ ∀ (tag : Tag) (source : σ) (decoding : Decoding σ), decode tag source = .ok decoding →
          (∃! target : Target, target.Accepts decoding.unit.value)
            ∧ (Target.payload.Accepts decoding.unit.value ↔ tag = Elementary.string.tag)
            ∧ ∀ (target : Target) (e : Mismatch),
                decoding.unit.value.narrow target = .error e → e = ⟨tag, target⟩ := by
  refine ⟨?_, ?_, ?_⟩
  · intro tag bytes htag hbytes
    obtain ⟨type, rfl⟩ := Tag.isDecodable_iff.mp htag
    rw [type.payloadSize_tag] at hbytes ⊢
    have hkind : type.tag.kind? = some type.kind := by rw [Tag.kind?, type.elementary?_tag, Option.map_some]
    obtain ⟨value, native, hdecode, hnarrow, hget⟩ := type.exists_decode_narrow hbytes rfl
    have hvalue : value.type = type := by
      have htype := type.type_value_decode bytes
      rwa [hdecode] at htype
    refine ⟨value, by rw [decode_tag, hdecode], by rw [hkind, Value.kind, hvalue], ?_⟩
    intro target kind htarget
    constructor
    · rw [Value.accepts_iff, hvalue, Target.eq_target_iff htarget, hkind, Option.some_inj]
    · intro handed hhanded
      obtain rfl : target = type.target := hvalue ▸ Value.accepts_iff.mp ⟨handed, hhanded⟩
      obtain rfl : handed = native := Except.ok.inj (hhanded.symm.trans hnarrow)
      obtain ⟨classified, htag, hshared⟩ := Target.exists_classified htarget
      obtain ⟨other, hother, hsame⟩ := Elementary.exists_decode_of_target_eq hshared hbytes hget
      exact ⟨hget, other, by rw [htag, decode_tag, hother], hsame⟩
  · intro target kind hkind source
    obtain ⟨type, htag, htarget⟩ := Target.exists_classified hkind
    refine ⟨type.decode source, by rw [htag, decode_tag], ?_⟩
    rw [Value.accepts_iff, type.type_value_decode, htarget]
  · intro tag source decoding hdecode
    obtain ⟨type, rfl, rfl⟩ := decode_eq_ok_iff.mp hdecode
    have htype : (type.decode source).unit.value.type = type := type.type_value_decode source
    refine ⟨⟨type.target, ?_, ?_⟩, ?_, ?_⟩
    · exact Value.accepts_iff.mpr (congrArg Elementary.target htype.symm)
    · intro target htarget
      rw [Value.accepts_iff.mp htarget, htype]
    · rw [Value.accepts_iff, htype, Target.payload_eq_target_iff, Elementary.tag_inj]
    · intro target e he
      rw [Value.eq_of_narrow_error he, Value.tag, htype]

/-- A word of sixteen bits with one byte behind it. It is a number without a sign under the classified tag
    too, and none with a sign. -/
theorem narrowing_law_of_a_word :
    let word : Tag := (Elementary.number .word).tag
    let bytes : List UInt8 := [0xEF, 0xBE, 0x07]
    let value : Value := .number .word 0xBEEF
    word.isDecodable = true ∧ word.payloadSize ≤ bytes.length
      ∧ decode word bytes = .ok ⟨.clean value, 2, [0x07]⟩
      ∧ Target.u16.kind? = some .u16 ∧ value.narrow .u16 = .ok (0xBEEF : UInt16)
      ∧ (∃ other, decode NativeKind.u16.tag bytes = .ok ⟨.clean other, 2, [0x07]⟩
          ∧ other.narrow .u16 = .ok (0xBEEF : UInt16))
      ∧ value.narrow .i16 = .error ⟨word, .i16⟩ := by
  intro word bytes value
  have hdecodable : word.isDecodable = true := by decide
  have hlength : word.payloadSize ≤ bytes.length := by decide
  have hdecode : decode word bytes = .ok ⟨.clean value, 2, [0x07]⟩ := rfl
  obtain ⟨hclean, -, hrefused⟩ := narrowing_law (σ := List UInt8)
  obtain ⟨decoded, hdecoded, -, htargets⟩ := hclean word bytes hdecodable hlength
  obtain rfl : decoded = value := by
    cases hdecoded.symm.trans hdecode
    rfl
  obtain ⟨-, hhanded⟩ := htargets .u16 .u16 rfl
  obtain ⟨-, other, hother, hsame⟩ := hhanded (0xBEEF : UInt16) rfl
  obtain ⟨-, -, hnamed⟩ := hrefused word bytes _ hdecode
  refine ⟨hdecodable, hlength, hdecode, rfl, rfl, ⟨other, hother, hsame⟩, ?_⟩
  cases he : value.narrow .i16 with
  | ok native => cases he
  | error e => rw [hnamed .i16 e he]

end CipUnits
