import CipUnits.Proofs.Spelling

/-!
# `CipUnits.Proofs.Rendering` — a dump as it is laid out

`HexDump.Chunked` says step by step which texts a writer may come to. Here the text is put together from
what the writer decides: where the row of digits is cut, which chunks have a marker, and what stands
between the chunks and around them. A chunk may have no digits, with or without a marker, and a cut may
fall inside a byte. Only what separates may stand between chunks, and no gap between two of them may be
empty. The types have this in them, so that every rendering is one that may be written.

## Contents
- `Separates`, by the code points of white space; `isSeparator_iff`.
- `Separators` and `Gap`; `Chunk`, digits behind a marker or none; `Rendering`, its `text` and its `row`.
- `chunked_text` — the text of a rendering is its row in chunks.
- `rendering_law` — every rendering of the digits of some bytes is read as the bytes.
-/

namespace CipUnits

namespace HexDump

/-! ## Separators -/

/-- The code points of white space. -/
def whiteSpace : List Nat :=
  [0x0009, 0x000A, 0x000B, 0x000C, 0x000D, 0x0020, 0x0085, 0x00A0, 0x1680, 0x2000, 0x2001, 0x2002, 0x2003,
    0x2004, 0x2005, 0x2006, 0x2007, 0x2008, 0x2009, 0x200A, 0x2028, 0x2029, 0x202F, 0x205F, 0x3000]

/-- A character that may stand between chunks: white space, a comma or a colon. -/
def Separates (c : Char) : Prop := c.toNat ∈ whiteSpace ∨ c = ',' ∨ c = ':'

instance (c : Char) : Decidable (Separates c) := inferInstanceAs (Decidable (_ ∨ _))

/-- By the characters of the text, not by all characters there are. -/
instance (text : List Char) : Decidable (∀ c ∈ text, Separates c) := List.decidableBAll _ _

theorem isBlank_iff {c : Char} : Text.isBlank c = true ↔ c.toNat ∈ whiteSpace := by
  simp only [Text.isBlank, whiteSpace, Bool.or_eq_true, Bool.and_eq_true, decide_eq_true_eq, beq_iff_eq,
    List.mem_cons, List.not_mem_nil, or_false]
  omega

/-- The reader cuts a text at the characters that may stand between chunks, and at no others. -/
theorem isSeparator_iff {c : Char} : isSeparator c = true ↔ Separates c := by
  simp only [isSeparator, Separates, Bool.or_eq_true, beq_iff_eq, isBlank_iff, or_assoc]

/-! ## Renderings -/

/-- A run of separators. -/
abbrev Separators := { text : List Char // ∀ c ∈ text, Separates c }

/-- What stands between two chunks. -/
abbrev Gap := { text : Separators // text.val ≠ [] }

/-- What may stand in front of the digits of a chunk. -/
inductive Marker where
  | absent
  | lower
  | upper
deriving DecidableEq, Repr

/-- The characters of a marker. -/
def Marker.text : Marker → List Char
  | absent => []
  | lower => ['0', 'x']
  | upper => ['0', 'X']

/-- Some digits, behind a marker or none. -/
structure Chunk where
  marker : Marker := .absent
  digits : List Char
deriving DecidableEq, Repr

/-- The text of a chunk. -/
def Chunk.text (chunk : Chunk) : List Char := chunk.marker.text ++ chunk.digits

/-- A dump as it is written: chunks with gaps between them, and separators in front and behind. -/
structure Rendering where
  before : Separators := ⟨[], List.forall_mem_nil _⟩
  first : Chunk
  later : List (Gap × Chunk) := []
  behind : Separators := ⟨[], List.forall_mem_nil _⟩

namespace Rendering

/-- The text behind the first chunk. -/
def tail (later : List (Gap × Chunk)) (behind : Separators) : List Char :=
  (later.flatMap fun (gap, chunk) => gap.val.val ++ chunk.text) ++ behind.val

/-- The text of a dump. -/
def text (rendering : Rendering) : List Char :=
  rendering.before.val ++ rendering.first.text ++ tail rendering.later rendering.behind

/-- The digits of all chunks in a row. -/
def row (rendering : Rendering) : List Char :=
  rendering.first.digits ++ rendering.later.flatMap fun (_, chunk) => chunk.digits

end Rendering

/-! ## Chunks -/

theorem Marker.text_mem (marker : Marker) : marker.text ∈ [[], ['0', 'x'], ['0', 'X']] := by
  cases marker <;> decide

/-- Separators may stand in front of anything. -/
theorem Chunked.separators {row text : List Char} (h : Chunked row text) (before : Separators) :
    Chunked row (before.val ++ text) := by
  obtain ⟨before, hbefore⟩ := before
  induction before with
  | nil => exact h
  | cons c before ih =>
      obtain ⟨hc, hlater⟩ := List.forall_mem_cons.mp hbefore
      exact .separator (isSeparator_iff.mpr hc) (ih hlater)

/-- A chunk ends in front of separators, and if there are none, where what comes behind them ends it. -/
theorem endsChunk_of_separators (before : Separators) {text : List Char}
    (h : before.val = [] → EndsChunk text) : EndsChunk (before.val ++ text) := by
  obtain ⟨before, hbefore⟩ := before
  cases before with
  | nil => exact h rfl
  | cons c before =>
      have hc : isSeparator c = true := isSeparator_iff.mpr (hbefore c List.mem_cons_self)
      simpa [EndsChunk] using hc

/-- A chunk may stand in front of whatever ends it. -/
theorem Chunked.cons {row text : List Char} (h : Chunked row text) (hends : EndsChunk text)
    (chunk : Chunk) : Chunked (chunk.digits ++ row) (chunk.text ++ text) :=
  .chunk chunk.marker.text_mem hends h

/-- What stands behind the first chunk ends it, and is itself a row in chunks. -/
theorem chunked_tail (later : List (Gap × Chunk)) (behind : Separators) :
    EndsChunk (Rendering.tail later behind)
      ∧ Chunked (later.flatMap fun (_, chunk) => chunk.digits) (Rendering.tail later behind) := by
  induction later with
  | nil =>
      have hends : EndsChunk (behind.val ++ []) := endsChunk_of_separators behind fun _ => rfl
      have hchunked := Chunked.nil.separators behind
      rw [List.append_nil] at hends hchunked
      exact ⟨hends, hchunked⟩
  | cons entry later ih =>
      obtain ⟨gap, chunk⟩ := entry
      obtain ⟨hends, hchunked⟩ := ih
      have htail : Rendering.tail ((gap, chunk) :: later) behind
          = gap.val.val ++ (chunk.text ++ Rendering.tail later behind) := by
        simp [Rendering.tail]
      rw [htail]
      refine ⟨?_, (hchunked.cons hends chunk).separators gap.val⟩
      exact endsChunk_of_separators gap.val fun hnone => absurd hnone gap.property

/-- **The text of a rendering is its row in chunks.** -/
theorem chunked_text (rendering : Rendering) : Chunked rendering.row rendering.text := by
  obtain ⟨hends, hchunked⟩ := chunked_tail rendering.later rendering.behind
  have hfirst := (hchunked.cons hends rendering.first).separators rendering.before
  rw [← List.append_assoc] at hfirst
  exact hfirst

end HexDump

/-! ## The law -/

namespace Command

open HexDump

/-- **Renderings.** Whatever rendering the digits of some bytes have, its text is read as these bytes: the
    letters may be of either case, the row may be cut anywhere, into chunks with a marker or none, and a
    gap may have any separators, in any number but zero. So if the arguments of a decode command with
    blanks in between are such a text, the bytes are its input. -/
theorem rendering_law (bytes : List UInt8) (rendering : Rendering) (hrow : Paired bytes rendering.row) :
    HexDump.read rendering.text = .ok bytes
      ∧ ∀ (setup : Setup) (request : DecodeRequest), request.file = none →
          (" ".intercalate request.hex).toList = rendering.text →
          decodeInput setup request = .ok bytes := by
  have hread : HexDump.read rendering.text = .ok bytes := read_of_chunked hrow (chunked_text rendering)
  refine ⟨hread, ?_⟩
  intro setup request hfile htext
  unfold decodeInput
  rw [hfile]
  dsimp only
  rw [htext, hread]
  rfl

/-- Two bytes in four chunks. The first byte is cut in two behind a marker, the third chunk is a marker
    and nothing else, and an em space, a line feed, a colon and commas stand around them. -/
theorem rendering_law_of_two_bytes :
    let first : Chunk := { marker := .lower, digits := ['0'] }
    let empty : Chunk := { marker := .upper, digits := [] }
    let rendering : Rendering :=
      { before := ⟨['\u2003', ','], by decide⟩
        first
        later := [(⟨⟨[':'], by decide⟩, by decide⟩, { digits := ['1', 'a'] }),
          (⟨⟨['\n', ','], by decide⟩, by decide⟩, empty),
          (⟨⟨[' '], by decide⟩, by decide⟩, { digits := ['B'] })]
        behind := ⟨[','], by decide⟩ }
    rendering.text = "\u2003,0x0:1a\n,0X B,".toList
      ∧ Paired [0x01, 0xAB] rendering.row
      ∧ HexDump.read rendering.text = .ok [0x01, 0xAB] := by
  intro first empty rendering
  have hrow : Paired [0x01, 0xAB] rendering.row :=
    .cons (by decide) (by decide) (.cons (by decide) (by decide) .nil)
  exact ⟨by decide, hrow, (rendering_law _ rendering hrow).1⟩

end Command

end CipUnits
