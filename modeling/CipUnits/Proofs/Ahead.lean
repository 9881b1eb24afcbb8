import CipUnits.Proofs.Record
import CipUnits.Proofs.WireFormat
import CipUnits.Source.Cursor

/-!
# `CipUnits.Proofs.Ahead` — a cursor and the bytes ahead of it

Units can be decoded from the front of a byte list, each from what the one before left, or read by a
reader on a cursor. The list gets shorter and the cursor moves, but both see the same bytes: a unit of
the cursor is the unit at the front of what is ahead of it, and as many bytes as that unit uses is how
far the cursor moves (`step_cursor`). So both go through any list of tags side by side.

## Contents
- **Lists.** `decode_of_length_lt` beside `decode_of_length_le`; what is used and what is left.
- **Cursors.** `decode_cursor`; `advance` and `step_cursor`, one step of a reader on a cursor.
- **Side by side.** `Front`, what one tag comes to at the front of a list; `Stride`, an operation in its
  place in a session; `Front.Agrees` and `agrees_readUnit`, one step.
- `front_law` — any list of tags.
-/

namespace CipUnits

/-! ## Lists -/

theorem Elementary.width_pos (type : Elementary) : 0 < type.width := by
  cases type with
  | bool | string => decide
  | number type => cases type <;> decide

namespace Elementary

variable (type : Elementary) {bytes : List UInt8}

/-- A unit of which bytes are missing takes all that there are. -/
theorem decode_of_length_lt (h : bytes.length < type.width) :
    type.decode bytes = ⟨.faulty ⟨type, .endOfInput⟩, bytes.length, []⟩ := by
  have hall : bytes.take type.width = bytes := List.take_of_length_le (Nat.le_of_lt h)
  have hgather : ByteSource.gather type.width bytes = .cut bytes .endOfInput [] := by
    change gatherFront type.width bytes = _
    simp only [gatherFront, hall]
    rw [dif_neg (Nat.ne_of_lt h)]
  rw [decode, hgather]

/-- A unit uses the bytes of its type, or all if there are fewer. -/
theorem used_decode_front (bytes : List UInt8) :
    (type.decode bytes).used = min type.width bytes.length := by
  rcases Nat.lt_or_ge bytes.length type.width with hshort | hlong
  · rw [type.decode_of_length_lt hshort]
    exact (Nat.min_eq_right (Nat.le_of_lt hshort)).symm
  · rw [type.decode_of_length_le hlong]
    exact (Nat.min_eq_left hlong).symm

/-- What is left is behind the bytes that were used. -/
theorem rest_decode_front (bytes : List UInt8) :
    (type.decode bytes).rest = bytes.drop (type.decode bytes).used := by
  rcases Nat.lt_or_ge bytes.length type.width with hshort | hlong
  · rw [type.decode_of_length_lt hshort]
    exact (List.drop_length).symm
  · rw [type.decode_of_length_le hlong]

/-- At the front of a list, a unit faults only for want of bytes, and then uses all of them. -/
theorem fault?_decode_front {fault : Fault} (h : (type.decode bytes).unit.fault? = some fault) :
    fault = ⟨type, .endOfInput⟩ ∧ (type.decode bytes).used = bytes.length := by
  rcases Nat.lt_or_ge bytes.length type.width with hshort | hlong
  · rw [type.decode_of_length_lt hshort] at h ⊢
    exact ⟨(Option.some.inj h).symm, rfl⟩
  · rw [type.decode_of_length_le hlong] at h
    cases h

end Elementary

/-! ## Cursors -/

@[simp] theorem Cursor.ahead_seek_add (cursor : Cursor) (n : Nat) :
    (cursor.seek (cursor.position + n)).ahead = cursor.ahead.drop n := by
  simp [ahead, seek]

/-- A request on a cursor is the request on what is ahead of it, behind which the cursor moves. -/
theorem Cursor.gather_eq (n : Nat) (cursor : Cursor) :
    cursor.gather n = match gatherFront n cursor.ahead with
      | .full block _ => .full block (cursor.seek (cursor.position + block.val.length))
      | .cut taken why _ => .cut taken why (cursor.seek (cursor.position + taken.length)) := by
  simp only [gather, gatherFront, toList_extract_position]
  split <;> rfl

/-- **A cursor decodes the unit at the front of what is ahead of it**, and moves behind its bytes. -/
theorem Elementary.decode_cursor (type : Elementary) (cursor : Cursor) :
    type.decode cursor
      = ⟨(type.decode cursor.ahead).unit, (type.decode cursor.ahead).used,
          cursor.seek (cursor.position + (type.decode cursor.ahead).used)⟩ := by
  have hcursor : ByteSource.gather type.width cursor = cursor.gather type.width := rfl
  have hahead : ByteSource.gather type.width cursor.ahead = gatherFront type.width cursor.ahead := rfl
  rw [decode, decode, hcursor, hahead, Cursor.gather_eq]
  cases gatherFront type.width cursor.ahead with
  | full block rest => rfl
  | cut taken why rest => rfl

namespace Reader

/-- The reader with its cursor some bytes further on, which are counted. -/
def advance (n : Nat) (reader : Reader Cursor) : Reader Cursor :=
  { reader with
    source := reader.source.seek (reader.source.position + n)
    consumed := reader.consumed + n }

/-- **One step on a cursor.** -/
theorem step_cursor (type : Elementary) (reader : Reader Cursor) :
    reader.step type =
      let front := type.decode reader.source.ahead
      (front.unit,
        { reader.advance front.used with
          record := reader.record.note reader.settings front.unit
          exhausted := reader.exhausted || front.unit.metEnd }) := by
  simp only [step, type.decode_cursor reader.source]
  rfl

end Reader

/-! ## Side by side -/

/-- What one tag comes to at the front of a byte list. -/
abbrev Front := Except UnsupportedTag (Decoding (List UInt8))

namespace Front

/-- What a lenient reader answers to the same tag. -/
def response : Front → Reader.Response
  | .ok decoding => .value decoding.unit.value
  | .error e => .error (.unsupported e.tag)

/-- What a reader reports of the same tag. -/
def event : Front → Event
  | .ok decoding => .ofDecoded decoding.unit
  | .error e => .refused e.tag

/-- The fault of a unit that was not read. A refused tag has none. -/
def fault? : Front → Option Fault
  | .ok decoding => decoding.unit.fault?
  | .error _ => none

/-- The bytes used: none by a refused tag. -/
def used : Front → Nat
  | .ok decoding => decoding.used
  | .error _ => 0

/-- The bytes left of those that there were. -/
def left (bytes : List UInt8) : Front → List UInt8
  | .ok decoding => decoding.rest
  | .error _ => bytes

end Front

theorem Front.filterMap_event (front : Front) :
    [front.event].filterMap Event.fault? = front.fault?.toList := by
  cases front with
  | ok decoding =>
      simp only [event, fault?]
      cases decoding.unit <;> rfl
  | error e => rfl

theorem decodeAll_cons (tag : Tag) (tags : List Tag) (bytes : List UInt8) :
    decodeAll (tag :: tags) bytes =
      (decode tag bytes :: (decodeAll tags (Front.left bytes (decode tag bytes))).1,
        (decodeAll tags (Front.left bytes (decode tag bytes))).2) := by
  rw [decodeAll]
  cases decode tag bytes with
  | ok decoding => rfl
  | error e => rfl

namespace Reader

/-- An operation in its place in a session: the reader that it met, and what it came to. -/
structure Stride (σ : Type) where
  before : Reader σ
  done : Performed σ

/-- The operations of a session in their places. -/
def strides {σ : Type} [ByteSource σ] (reader : Reader σ) : List (Operation σ) → List (Stride σ)
  | [] => []
  | operation :: operations =>
      ⟨reader, reader.perform operation⟩ :: strides (reader.perform operation).reader operations

theorem map_done_strides {σ : Type} [ByteSource σ] (reader : Reader σ) (operations : List (Operation σ)) :
    (reader.strides operations).map Stride.done = reader.performAll operations := by
  induction operations generalizing reader with
  | nil => rfl
  | cons operation operations ih => simp only [strides, List.map_cons, ih, performAll]

end Reader

/-- A unit at the front of a byte list, and a unit read on a cursor that has these bytes ahead of it,
    come to the same. -/
structure Front.Agrees (front : Front) (stride : Reader.Stride Cursor) : Prop where
  /-- The values are the same, or both refuse the tag. -/
  response : stride.done.response = front.response
  /-- The units are the same, with the same fault if there is one. -/
  events : stride.done.events = [front.event]
  /-- That fault is what is put on record or counted. -/
  record : stride.done.reader.record
    = front.fault?.elim stride.before.record (stride.before.record.add stride.before.settings.capacity)
  /-- The bytes used are counted. -/
  consumed : stride.done.reader.consumed = stride.before.consumed + front.used
  /-- They are the first ones ahead, and what is left of the list is what is ahead then. -/
  ahead : stride.before.source.ahead.drop front.used = stride.done.reader.source.ahead
  fits : front.used ≤ stride.before.source.ahead.length
  left : front.left stride.before.source.ahead = stride.done.reader.source.ahead
  /-- The cursor goes on in the same bytes. -/
  data : stride.done.reader.source.data = stride.before.source.data
  /-- A unit that runs out takes all the bytes. -/
  cut : ∀ fault, front.fault? = some fault →
    fault.failure = .endOfInput ∧ front.used = stride.before.source.ahead.length
  /-- Where no bytes are ahead, every unit that is not refused faults and uses none. -/
  ended : stride.before.source.ahead = [] →
    front.used = 0 ∧ ∀ decoding, front = .ok decoding → decoding.unit.isClean = false
  /-- A refused tag changes nothing. -/
  refused : ∀ e, front = .error e → stride.done.reader = stride.before

namespace Reader

variable {reader : Reader Cursor}

theorem perform_readUnit_cursor (hlenient : reader.settings.strict = false) (type : Elementary) :
    reader.perform (.readUnit type.tag) =
      let front := type.decode reader.source.ahead
      ⟨.value front.unit.value,
        { reader.advance front.used with
          record := front.unit.fault?.elim reader.record (reader.record.add reader.settings.capacity)
          exhausted := reader.exhausted || front.unit.metEnd },
        [.ofDecoded front.unit]⟩ := by
  rw [perform_readUnit_tag, Settings.surfaced?_of_lenient hlenient, step_cursor]
  dsimp only
  rw [FaultRecord.note_of_lenient hlenient]

/-- **One tag.** -/
theorem agrees_readUnit (hlenient : reader.settings.strict = false) (tag : Tag) :
    Front.Agrees (decode tag reader.source.ahead) ⟨reader, reader.perform (.readUnit tag)⟩ := by
  cases htag : tag.elementary? with
  | none =>
      have hfront : decode tag reader.source.ahead = .error ⟨tag⟩ := by rw [decode, htag]
      rw [hfront, perform_readUnit_unsupported htag]
      exact {
        response := rfl, events := rfl, record := rfl, consumed := rfl, data := rfl
        ahead := rfl, left := rfl
        fits := Nat.zero_le _
        cut := fun _ h => by cases h
        ended := fun _ => ⟨rfl, fun _ h => by cases h⟩
        refused := fun _ _ => rfl }
  | some type =>
      obtain rfl := Tag.elementary?_eq_some_iff.mp htag
      have hahead := reader.source.ahead_seek_add (type.decode reader.source.ahead).used
      rw [decode_tag, perform_readUnit_cursor hlenient]
      refine {
        response := rfl, events := rfl, record := rfl, consumed := rfl, data := rfl
        ahead := hahead.symm
        left := (type.rest_decode_front _).trans hahead.symm
        fits := ?_, cut := ?_, ended := ?_
        refused := fun _ h => by cases h }
      · rw [Front.used, type.used_decode_front]
        exact Nat.min_le_right _ _
      · intro fault hfault
        obtain ⟨rfl, hall⟩ := type.fault?_decode_front hfault
        exact ⟨rfl, hall⟩
      · intro (hnone : reader.source.ahead = [])
        have hcut : type.decode reader.source.ahead = ⟨.faulty ⟨type, .endOfInput⟩, 0, []⟩ := by
          rw [hnone]
          exact type.decode_of_length_lt type.width_pos
        rw [hcut]
        refine ⟨rfl, ?_⟩
        rintro decoding ⟨⟩
        rfl

/-- The next tag finds the same bytes ahead of the cursor and at the front of the list. -/
theorem decodeAll_ahead_cons (hlenient : reader.settings.strict = false) (tag : Tag) (tags : List Tag) :
    decodeAll (tag :: tags) reader.source.ahead =
      let later := decodeAll tags (reader.perform (.readUnit tag)).reader.source.ahead
      (decode tag reader.source.ahead :: later.1, later.2) := by
  rw [decodeAll_cons, (agrees_readUnit hlenient tag).left]

theorem lenient_readUnit (hlenient : reader.settings.strict = false) (tag : Tag) :
    (reader.perform (.readUnit tag)).reader.settings.strict = false := by
  rw [settings_perform]
  exact hlenient

/-- **Any list of tags.** -/
theorem agrees_readUnits (hlenient : reader.settings.strict = false) (tags : List Tag) :
    List.Forall₂ Front.Agrees (decodeAll tags reader.source.ahead).1
        (reader.strides (tags.map Operation.readUnit))
      ∧ (reader.after (tags.map Operation.readUnit)).source.ahead
          = (decodeAll tags reader.source.ahead).2
      ∧ (reader.after (tags.map Operation.readUnit)).source.data = reader.source.data
      ∧ (reader.after (tags.map Operation.readUnit)).consumed
          = reader.consumed + ((decodeAll tags reader.source.ahead).1.map Front.used).sum := by
  induction tags generalizing reader with
  | nil => exact ⟨.nil, rfl, rfl, rfl⟩
  | cons tag tags ih =>
      have hone := agrees_readUnit hlenient tag
      obtain ⟨hmore, hahead, hdata, hconsumed⟩ := ih (lenient_readUnit hlenient tag)
      rw [decodeAll_ahead_cons hlenient]
      refine ⟨.cons hone hmore, hahead, hdata.trans hone.data, ?_⟩
      simp only [List.map_cons, List.sum_cons, ← Nat.add_assoc]
      exact hconsumed.trans (congrArg (· + _) hone.consumed)

/-- The faults met on the cursor are those at the front of the list. -/
theorem faults_history_readUnits (hlenient : reader.settings.strict = false) (tags : List Tag) :
    Decoded.faults (reader.history (tags.map Operation.readUnit))
      = (decodeAll tags reader.source.ahead).1.filterMap Front.fault? := by
  induction tags generalizing reader with
  | nil => rfl
  | cons tag tags ih =>
      have hnow : Decoded.faults (reader.units (.readUnit tag))
          = (Front.fault? (decode tag reader.source.ahead)).toList := by
        rw [← faults_events_perform, (agrees_readUnit hlenient tag).events, Front.filterMap_event]
      have hlater := ih (lenient_readUnit hlenient tag)
      rw [decodeAll_ahead_cons hlenient]
      calc Decoded.faults (reader.units (.readUnit tag) ++ _)
          = Decoded.faults (reader.units (.readUnit tag)) ++ Decoded.faults _ := List.filterMap_append
        _ = _ := by
          rw [hnow, hlater, List.filterMap_cons]
          cases Front.fault? (decode tag reader.source.ahead) <;> rfl

/-- Where nothing but units is read, all faults met stay pending. -/
theorem pendingFaults_readUnits (pending : List Fault) (tags : List Tag) :
    reader.pendingFaults pending (tags.map Operation.readUnit)
      = pending ++ Decoded.faults (reader.history (tags.map Operation.readUnit)) := by
  induction tags generalizing reader pending with
  | nil => exact (List.append_nil pending).symm
  | cons tag tags ih =>
      rw [List.map_cons, pendingFaults, ih, Operation.leave, List.append_assoc]
      exact congrArg (pending ++ ·) List.filterMap_append.symm

/-! ## The law -/

/-- **Lists and cursors.** Decoding a list of tags from the front of some bytes, and reading them with
    a lenient reader from a cursor on the same bytes, agree tag by tag; in the end what is left of the
    list is what is ahead of the cursor, all bytes used are counted, and the faults of the list are
    those on record followed by those that were only counted. -/
theorem front_law (bytes : List UInt8) (capacity : Nat) (tags : List Tag) :
    let first := start (Cursor.ofBytes bytes) { capacity }
    let operations := tags.map Operation.readUnit
    let reader := first.after operations
    let fronts := (decodeAll tags bytes).1
    let left := (decodeAll tags bytes).2
    let faults := fronts.filterMap Front.fault?
    List.Forall₂ Front.Agrees fronts (first.strides operations)
      ∧ left = bytes.drop reader.source.position
      ∧ reader.consumed = (fronts.map Front.used).sum
      ∧ Decoded.faults (first.history operations) = faults
      ∧ ∃ dropped : List Fault,
          faults = reader.record.kept.toList ++ dropped ∧ reader.record.dropped = dropped.length := by
  intro first operations reader fronts left faults
  have hahead : first.source.ahead = bytes := Cursor.ahead_ofBytes bytes
  have hlenient : first.settings.strict = false := rfl
  obtain ⟨hagrees, hend, hdata, hconsumed⟩ := agrees_readUnits hlenient tags
  have hfaults := faults_history_readUnits hlenient tags
  rw [hahead] at hagrees hend hconsumed hfaults
  have hrecord : reader.record = .ofFaults capacity faults := by
    have hempty : first.record = .ofFaults first.settings.capacity [] := by
      simp [first, start, FaultRecord.ofFaults]
    have hpending := record_after_of_lenient hlenient hempty operations
    rw [pendingFaults_readUnits, List.nil_append, hfaults] at hpending
    exact hpending
  refine ⟨hagrees, ?_, hconsumed.trans (Nat.zero_add _), hfaults, faults.drop capacity, ?_, ?_⟩
  · refine hend.symm.trans ?_
    rw [Cursor.ahead, hdata]
    rfl
  · rw [hrecord]
    exact (List.take_append_drop capacity faults).symm
  · rw [hrecord, List.length_drop]
    rfl

end Reader

end CipUnits
