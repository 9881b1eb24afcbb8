import CipUnits.Source.Basic

/-!
# `CipUnits.Source.Cursor` — a position in bytes held in memory

A cursor may be moved anywhere, also past the end of its bytes, where it has nothing ahead of it.
-/

namespace CipUnits

/-- A position in a byte array. -/
structure Cursor where
  data : Array UInt8
  position : Nat

namespace Cursor

/-- A cursor at the start of the given bytes. -/
def ofBytes (bytes : List UInt8) : Cursor := ⟨bytes.toArray, 0⟩

/-- The bytes from the position on. -/
def ahead (cursor : Cursor) : List UInt8 := cursor.data.toList.drop cursor.position

/-- The cursor at another position. -/
def seek (position : Nat) (cursor : Cursor) : Cursor := { cursor with position }

/-- Takes the next `n` bytes and moves behind what it took. -/
def gather (n : Nat) (cursor : Cursor) : Gathered Cursor n :=
  let taken := (cursor.data.extract cursor.position (cursor.position + n)).toList
  let rest := { cursor with position := cursor.position + taken.length }
  if h : taken.length = n then .full ⟨taken, h⟩ rest else .cut taken .endOfInput rest

instance : ByteSource Cursor := ⟨gather⟩

@[simp] theorem ahead_ofBytes (bytes : List UInt8) : (ofBytes bytes).ahead = bytes := by
  simp [ahead, ofBytes]

/-- The extract that a request takes is the front of what is ahead. -/
theorem toList_extract_position (n : Nat) (cursor : Cursor) :
    (cursor.data.extract cursor.position (cursor.position + n)).toList = cursor.ahead.take n := by
  simp [ahead, Array.toList_extract]

@[simp] theorem bytes_gather (n : Nat) (cursor : Cursor) :
    (cursor.gather n).bytes = cursor.ahead.take n := by
  dsimp only [gather, ahead]
  split <;> simp [Gathered.bytes, Array.toList_extract]

theorem position_rest_gather (n : Nat) (cursor : Cursor) :
    (cursor.gather n).rest.position = cursor.position + (cursor.gather n).bytes.length := by
  dsimp only [gather]
  split <;> rfl

end Cursor

end CipUnits
