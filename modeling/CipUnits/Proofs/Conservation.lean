import CipUnits.Proofs.Run
import CipUnits.Source.Cursor
import CipUnits.Source.Script

/-!
# `CipUnits.Proofs.Conservation` — where the bytes go

The count of consumed bytes is exact in every state of every session. What was given to a script, at
first and by later pushes, is what was taken followed by what is still there; a cursor stands as far
behind its last seek as bytes were consumed since. A unit that was cut off is no exception: what
arrived of it was taken and is counted.

## Contents
- **Reading.** `consumed_step` and `source_step`; the count never falls.
- **Scripts.** `Accounted`, the balance of a script reader, through reading, an entry and a session.
- **Cursors.** `Anchored`, the balance of a cursor reader, in the same steps.
- `byte_conservation` — both, and that no operation lowers the count.
-/

namespace CipUnits

/-- The script with further steps behind its own. -/
def Script.push (steps script : Script) : Script := script ++ steps

namespace Reader

/-! ## Reading -/

section

variable {σ : Type} [ByteSource σ]

theorem consumed_step (type : Elementary) (reader : Reader σ) :
    (reader.step type).2.consumed
      = reader.consumed + (ByteSource.gather type.width reader.source).bytes.length := by
  simp [step]

theorem source_step (type : Elementary) (reader : Reader σ) :
    (reader.step type).2.source = (ByteSource.gather type.width reader.source).rest := by
  simp [step]

theorem Reads.consumed_le {reader last : Reader σ} {units : List Decoded} (h : Reads reader units last) :
    reader.consumed ≤ last.consumed := by
  induction h with
  | refl => exact Nat.le_refl _
  | @head reader last units type _ ih =>
      have hstep := consumed_step type reader
      omega

/-- No operation lowers the count of consumed bytes. -/
theorem consumed_le_perform (reader : Reader σ) (operation : Operation σ) :
    reader.consumed ≤ (reader.perform operation).reader.consumed := by
  have hadjust : (operation.adjust reader).consumed = reader.consumed := by cases operation <;> rfl
  rw [← hadjust]
  exact (reads_perform reader operation).consumed_le

end

/-! ## Scripts -/

/-- All bytes given to a reader's script were either taken and counted, or are still there. -/
def Accounted (given : List UInt8) (reader : Reader Script) : Prop :=
  ∃ taken : List UInt8, taken ++ reader.source.data = given ∧ reader.consumed = taken.length

/-- The bytes that an entry of a session pushes. -/
def Entry.pushed : Entry Script → List UInt8
  | query _ => []
  | edit steps => steps.data

/-- Reading moves bytes from the script to the count. -/
theorem Reads.accounted {reader last : Reader Script} {units : List Decoded} {given : List UInt8}
    (h : Reads reader units last) (haccounted : Accounted given reader) : Accounted given last := by
  induction h with
  | refl => exact haccounted
  | @head reader last units type _ ih =>
      obtain ⟨taken, hgiven, hconsumed⟩ := haccounted
      -- what the request took moves from the script to the taken bytes, whether it was cut off or not
      refine ih ⟨taken ++ (ByteSource.gather type.width reader.source).bytes, ?_, ?_⟩
      · rw [source_step, List.append_assoc, ← hgiven]
        exact congrArg (taken ++ ·) (Script.bytes_append_data_rest type.width reader.source)
      · rw [consumed_step, hconsumed, List.length_append]

/-- **One entry.** -/
theorem Accounted.perform {given : List UInt8} {reader : Reader Script} (h : Accounted given reader)
    (entry : Entry Script) :
    Accounted (given ++ entry.pushed) (reader.perform (entry.operation Script.push)).reader := by
  apply (reads_perform reader (entry.operation Script.push)).accounted
  cases entry with
  | query asked =>
      rw [Entry.pushed, List.append_nil]
      cases asked <;> exact h
  | edit steps =>
      obtain ⟨taken, hgiven, hconsumed⟩ := h
      refine ⟨taken, ?_, hconsumed⟩
      simp [Entry.operation, Operation.adjust, mapSource, Script.push, Entry.pushed, ← hgiven]

/-- **Any session.** -/
theorem Accounted.after {given : List UInt8} {reader : Reader Script} (h : Accounted given reader)
    (entries : List (Entry Script)) :
    Accounted (given ++ entries.flatMap Entry.pushed)
      (reader.after (entries.map (Entry.operation Script.push))) := by
  induction entries generalizing given reader with
  | nil => simpa using h
  | cons entry entries ih =>
      rw [List.flatMap_cons, ← List.append_assoc]
      exact ih (h.perform entry)

/-! ## Cursors -/

/-- Where a cursor stood after its last seek, and how many bytes had been consumed by then. -/
structure Anchor where
  position : Nat := 0
  consumed : Nat := 0
deriving DecidableEq, Repr

/-- The anchor after an entry. -/
def Anchor.move (anchor : Anchor) (reader : Reader Cursor) : Entry Nat → Anchor
  | .query _ => anchor
  | .edit position => ⟨position, reader.consumed⟩

/-- The anchor after a session: that of its last seek, if there is one. -/
def anchorAfter (anchor : Anchor) (reader : Reader Cursor) : List (Entry Nat) → Anchor
  | [] => anchor
  | entry :: entries =>
      anchorAfter (anchor.move reader entry) (reader.perform (entry.operation Cursor.seek)).reader entries

/-- The cursor stands as far behind its anchor as bytes were consumed since. -/
structure Anchored (anchor : Anchor) (reader : Reader Cursor) : Prop where
  consumed : anchor.consumed ≤ reader.consumed
  position : reader.source.position = anchor.position + (reader.consumed - anchor.consumed)

theorem Reads.anchored {reader last : Reader Cursor} {units : List Decoded} {anchor : Anchor}
    (h : Reads reader units last) (hanchored : Anchored anchor reader) : Anchored anchor last := by
  induction h with
  | refl => exact hanchored
  | @head reader last units type _ ih =>
      obtain ⟨hconsumed, hposition⟩ := hanchored
      have hcount := consumed_step type reader
      have hmove : (reader.step type).2.source.position
          = reader.source.position + (ByteSource.gather type.width reader.source).bytes.length := by
        rw [source_step]
        exact Cursor.position_rest_gather type.width reader.source
      exact ih ⟨by omega, by omega⟩

/-- **One entry.** -/
theorem Anchored.perform {anchor : Anchor} {reader : Reader Cursor} (h : Anchored anchor reader)
    (entry : Entry Nat) :
    Anchored (anchor.move reader entry) (reader.perform (entry.operation Cursor.seek)).reader := by
  apply (reads_perform reader (entry.operation Cursor.seek)).anchored
  cases entry with
  | query asked => cases asked <;> exact ⟨h.consumed, h.position⟩
  | edit position =>
      refine ⟨Nat.le_refl _, ?_⟩
      simp [Entry.operation, Operation.adjust, mapSource, Cursor.seek, Anchor.move]

/-- **Any session.** -/
theorem Anchored.after {anchor : Anchor} {reader : Reader Cursor} (h : Anchored anchor reader)
    (entries : List (Entry Nat)) :
    Anchored (anchorAfter anchor reader entries)
      (reader.after (entries.map (Entry.operation Cursor.seek))) := by
  induction entries generalizing anchor reader with
  | nil => exact h
  | cons entry entries ih => exact ih (h.perform entry)

/-! ## The law -/

/-- **Conservation of bytes.** In every state of a session on a script, the bytes given are the bytes
    taken, which are counted, followed by the bytes left; in every state of a session on a cursor, its
    position is that of the last seek and the bytes consumed since; and no operation lowers the count. -/
theorem byte_conservation (settings : Settings) :
    (∀ (script : Script) (entries : List (Entry Script)),
        let reader := (start script settings).after (entries.map (Entry.operation Script.push))
        ∃ taken : List UInt8,
          taken ++ reader.source.data = script.data ++ entries.flatMap Entry.pushed
            ∧ reader.consumed = taken.length)
      ∧ (∀ (bytes : List UInt8) (entries : List (Entry Nat)),
          let first := start (Cursor.ofBytes bytes) settings
          let reader := first.after (entries.map (Entry.operation Cursor.seek))
          let anchor := anchorAfter {} first entries
          anchor.consumed ≤ reader.consumed
            ∧ reader.source.position = anchor.position + (reader.consumed - anchor.consumed))
      ∧ ∀ (σ : Type) [ByteSource σ] (reader : Reader σ) (operation : Operation σ),
          reader.consumed ≤ (reader.perform operation).reader.consumed := by
  refine ⟨?_, ?_, fun σ _ reader operation => consumed_le_perform reader operation⟩
  · intro script entries
    have hstart : Accounted script.data (start script settings) := ⟨[], rfl, rfl⟩
    exact hstart.after entries
  · intro bytes entries
    have hstart : Anchored {} (start (Cursor.ofBytes bytes) settings) := ⟨Nat.le_refl _, rfl⟩
    have hend := hstart.after entries
    exact ⟨hend.consumed, hend.position⟩

end Reader

end CipUnits
