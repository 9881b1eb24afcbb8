import CipUnits.Proofs.WireFormat
import CipUnits.Value.Text

/-!
# `CipUnits.Proofs.Payload` — what the payload of a string tells

A payload has a length in front and then room for the characters, of which the length says how many there
are. What stands behind these may be left over from an earlier string and must not be told. The length is
any number of four bytes, so that it may be more than there is room for, and then all of the room is
characters. It may also end inside a character of several bytes; then nothing is told of the bytes behind
the cut either.

So the text is a function of the characters alone, and these are a slice of the room that never leaves it.
A text is told by every payload that it fits into.

## Contents
- **Slices.** `slice?`, refused where a buffer does not reach so far.
- **Characters.** `Payload.length`, `Payload.room` and `Payload.extent`; `characters?_eq`.
- **Texts.** `Payload.holding`, a text with something behind it; `text_holding`.
- `payload_law` — a payload tells the text it holds, and nothing else.
-/

namespace CipUnits

/-! ## Slices -/

/-- The bytes of a buffer from one place up to another, if the buffer reaches so far. -/
def slice? (buffer : List UInt8) (first past : Nat) : Option (List UInt8) :=
  if first ≤ past ∧ past ≤ buffer.length then some ((buffer.take past).drop first) else none

theorem slice?_of_le {buffer : List UInt8} {first past : Nat} (hfirst : first ≤ past)
    (hpast : past ≤ buffer.length) : slice? buffer first past = some ((buffer.take past).drop first) :=
  if_pos ⟨hfirst, hpast⟩

namespace Payload

/-! ## Characters -/

/-- The length that a payload gives, whatever room there is. -/
def length (payload : Payload) : Nat := littleEndian (payload.val.take stringLengthWidth)

/-- The bytes in which there is room for characters. -/
def room (payload : Payload) : List UInt8 := payload.val.drop stringLengthWidth

/-- How many bytes of the room are characters: as many as the length says, if there is room for them. -/
def extent (payload : Payload) : Nat := min payload.length stringAreaWidth

/-- The characters, by slices that are refused where they would leave the payload or the room. -/
def characters? (payload : Payload) : Option (List UInt8) := do
  let front ← slice? payload.val 0 stringLengthWidth
  let room ← slice? payload.val stringLengthWidth stringWidth
  slice? room 0 (min (littleEndian front) room.length)

theorem length_room (payload : Payload) : payload.room.length = stringAreaWidth := by
  unfold room
  rw [List.length_drop, payload.property]
  rfl

theorem characters_eq_take (payload : Payload) :
    payload.characters = payload.room.take payload.extent := by
  have hlength := payload.length_room
  show payload.room.take payload.length = payload.room.take (min payload.length stringAreaWidth)
  rw [← hlength, List.take_eq_take_iff]
  omega

/-- **No slice leaves the payload**, whatever length it gives. -/
theorem characters?_eq (payload : Payload) : payload.characters? = some payload.characters := by
  have hsize : payload.val.length = stringWidth := payload.property
  have hfits : stringLengthWidth ≤ stringWidth := Nat.le_add_right _ _
  have hfront : slice? payload.val 0 stringLengthWidth = some (payload.val.take stringLengthWidth) :=
    slice?_of_le (Nat.zero_le _) (Nat.le_trans hfits (Nat.le_of_eq hsize.symm))
  have hroom : slice? payload.val stringLengthWidth stringWidth = some payload.room := by
    rw [slice?_of_le hfits (Nat.le_of_eq hsize.symm), List.take_of_length_le (Nat.le_of_eq hsize)]
    rfl
  have hall : slice? payload.room 0 payload.extent = some (payload.room.take payload.extent) := by
    refine slice?_of_le (Nat.zero_le _) ?_
    rw [length_room]
    exact Nat.min_le_right _ _
  unfold characters?
  rw [hfront, hroom]
  show slice? payload.room 0 (min payload.length payload.room.length) = _
  rw [length_room, characters_eq_take]
  exact hall

/-- The text of a payload is that of its characters, and so is what is made of the text. -/
theorem text_congr {p q : Payload} (h : p.characters = q.characters) :
    (Value.string p).text? = (Value.string q).text?
      ∧ (Value.string p).display = (Value.string q).display
      ∧ (Value.string p).json = (Value.string q).json := by
  have htext : p.text = q.text := by
    unfold text
    rw [h]
  exact ⟨congrArg some htext, congrArg Text.quoted htext, congrArg Json.string htext⟩

/-! ## Texts -/

/-- The bytes of a string are those that its characters are written as. -/
theorem toUTF8_eq_writeUtf8 (s : String) : s.toUTF8.data.toList = Text.writeUtf8 s.toList := by
  have hbytes : s.toList.utf8Encode = s.toUTF8 := String.utf8Encode_toList
  rw [← hbytes]
  unfold List.utf8Encode Text.writeUtf8
  simp

/-- A payload that holds a string: the number of its bytes, the bytes and whatever fills the room. -/
def holding (s : String) (padding : List UInt8)
    (hfills : s.utf8ByteSize + padding.length = stringAreaWidth) : Payload :=
  ⟨littleEndianBytes stringLengthWidth s.utf8ByteSize ++ (s.toUTF8.data.toList ++ padding), by
    have hbytes : s.toUTF8.data.toList.length = s.utf8ByteSize := rfl
    rw [List.length_append, List.length_append, length_littleEndianBytes, hbytes, hfills]
    rfl⟩

section

variable {s : String} {padding : List UInt8}
  (hfills : s.utf8ByteSize + padding.length = stringAreaWidth)

theorem length_holding : (holding s padding hfills).length = s.utf8ByteSize := by
  have hfew : s.utf8ByteSize ≤ 82 := Nat.le.intro hfills
  unfold length holding
  rw [List.take_left' (length_littleEndianBytes _ _), littleEndian_littleEndianBytes]
  exact Nat.mod_eq_of_lt (Nat.lt_of_le_of_lt hfew (by decide))

theorem characters_holding : (holding s padding hfills).characters = s.toUTF8.data.toList := by
  have hfew : s.utf8ByteSize ≤ stringAreaWidth := Nat.le.intro hfills
  have hroom : (holding s padding hfills).room = s.toUTF8.data.toList ++ padding :=
    List.drop_left' (length_littleEndianBytes _ _)
  rw [characters_eq_take, extent, length_holding, Nat.min_eq_left hfew, hroom]
  exact List.take_left' rfl

/-- **A payload tells the string it holds**, whatever fills the room behind it. -/
theorem text_holding : (holding s padding hfills).text = s := by
  unfold text
  rw [characters_holding, toUTF8_eq_writeUtf8, Text.readUtf8_writeUtf8, String.ofList_toList]

end

/-! ## The law -/

/-- **Payloads.** Every string that there is room for is told by the payloads that hold it, whatever stands
    behind its bytes, as a text and as JSON. Payloads with as many characters, and these the same, tell the
    same in every form, whatever stands behind the characters and by how much the length goes beyond the
    room. No slice that is taken leaves the payload or the room, for any length that a payload gives. -/
theorem payload_law :
    (∀ (s : String) (padding : List UInt8) (hfills : s.utf8ByteSize + padding.length = stringAreaWidth),
        (holding s padding hfills).val
            = littleEndianBytes stringLengthWidth s.utf8ByteSize ++ (s.toUTF8.data.toList ++ padding)
          ∧ (Value.string (holding s padding hfills)).text? = some s
          ∧ (Value.string (holding s padding hfills)).json = .string s)
      ∧ (∀ (p q : Payload) (m : Nat), min p.length stringAreaWidth = m → min q.length stringAreaWidth = m →
          p.room.take m = q.room.take m →
          (Value.string p).text? = (Value.string q).text?
            ∧ (Value.string p).display = (Value.string q).display
            ∧ (Value.string p).json = (Value.string q).json)
      ∧ ∀ p : Payload, p.room.length = stringAreaWidth ∧ p.characters? = some p.characters
          ∧ p.characters = p.room.take (min p.length stringAreaWidth) := by
  refine ⟨?_, ?_, ?_⟩
  · intro s padding hfills
    have htext := text_holding hfills
    exact ⟨rfl, congrArg some htext, congrArg Json.string htext⟩
  · intro p q m hp hq hsame
    have hcharacters : p.characters = q.characters := by
      rw [characters_eq_take, characters_eq_take, extent, extent, hp, hq]
      exact hsame
    exact text_congr hcharacters
  · intro p
    exact ⟨p.length_room, p.characters?_eq, p.characters_eq_take⟩

/-- A letter of two bytes with something left over behind it. Under a length of one, only half of the
    letter is told, and nothing of what the other half is; and a length beyond the room is the whole room. -/
theorem payload_law_of_half_a_letter :
    let behind : List UInt8 := List.replicate 80 0x58
    let under (length : Nat) (room : Block stringAreaWidth) : Payload :=
      ⟨littleEndianBytes stringLengthWidth length ++ room.val, by
        rw [List.length_append, length_littleEndianBytes, room.property]; rfl⟩
    let first : Block stringAreaWidth := ⟨0xC3 :: 0xA9 :: behind, rfl⟩
    let other : Block stringAreaWidth := ⟨0xC3 :: 0x00 :: behind, rfl⟩
    ∃ hfills : "é".utf8ByteSize + behind.length = stringAreaWidth,
      (Value.string (holding "é" behind hfills)).text? = some "é"
        ∧ (Value.string (under 1 first)).text? = (Value.string (under 1 other)).text?
        ∧ (Value.string (under 1 first)).text? = some "\uFFFD"
        ∧ (Value.string (under 82 first)).display = (Value.string (under 0xFFFFFFFF first)).display := by
  intro behind under first other
  obtain ⟨htold, hsame, -⟩ := payload_law
  refine ⟨by decide, (htold "é" behind (by decide)).2.1, ?_, by decide, ?_⟩
  · exact (hsame (under 1 first) (under 1 other) 1 (by decide) (by decide) (by decide)).1
  · exact (hsame (under 82 first) (under 0xFFFFFFFF first) 82 (by decide) (by decide) rfl).2.1

end Payload

end CipUnits
