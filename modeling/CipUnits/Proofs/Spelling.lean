import CipUnits.Proofs.Stages
import Mathlib.Data.List.Forall2

/-!
# `CipUnits.Proofs.Spelling` — bytes spelled in hexadecimal

A byte string can be spelled in many ways: the case of each letter is free, the row of digits may be cut
into chunks anywhere, also inside a byte, each chunk may have a marker in front, and the chunks may be
spread over any number of arguments. The grammar here is that of the writer. It starts from the bytes and
says which texts spell them, without a word about how a text is read.

A marker is no danger to the digits: what follows the zero in it is no digit, so that it is never taken
for one, and no row of digits begins like a marker.

## Contents
- **Digits.** `IsDigitOf` and `Paired`, a row of digits; `readPairs_of_paired` reads it.
- **Chunks.** `Chunked`, a row cut into chunks; `digits_of_chunked` puts it together again.
- **Arguments.** `Spells`; `read_of_spells`, all spellings are read as the bytes; `exists_spells`.
- `interchange_law` — the decode command does not tell a spelling from a file.
-/

namespace CipUnits

namespace HexDump

/-! ## Digits -/

/-- A character is the digit of a number in base sixteen, a letter in either case. -/
def IsDigitOf (value : Nat) (c : Char) : Prop :=
  c = Nat.digitChar value ∨ c = (Nat.digitChar value).toUpper

instance (value : Nat) (c : Char) : Decidable (IsDigitOf value c) :=
  inferInstanceAs (Decidable (_ ∨ _))

/-- A row has the two digits of each byte, the higher one first. -/
inductive Paired : List UInt8 → List Char → Prop where
  | nil : Paired [] []
  | cons {byte : UInt8} {bytes : List UInt8} {high low : Char} {row : List Char}
      (hhigh : IsDigitOf (byte.toNat / 16) high) (hlow : IsDigitOf (byte.toNat % 16) low)
      (hrow : Paired bytes row) : Paired (byte :: bytes) (high :: low :: row)

/-- A digit has its value, takes one byte in a text, and is neither a separator nor part of a marker. -/
structure Digit (value : Nat) (c : Char) : Prop where
  value : Text.digit? 16 c = some value
  width : (String.utf8EncodeChar c).length = 1
  separator : isSeparator c = false
  sign : c ≠ '+'
  marker : c ≠ 'x' ∧ c ≠ 'X'

theorem digit_iff {value : Nat} {c : Char} :
    Digit value c ↔ Text.digit? 16 c = some value ∧ (String.utf8EncodeChar c).length = 1
      ∧ isSeparator c = false ∧ c ≠ '+' ∧ c ≠ 'x' ∧ c ≠ 'X' := by
  constructor
  · rintro ⟨hvalue, hwidth, hseparator, hsign, hmarker⟩
    exact ⟨hvalue, hwidth, hseparator, hsign, hmarker⟩
  · rintro ⟨hvalue, hwidth, hseparator, hsign, hmarker⟩
    exact ⟨hvalue, hwidth, hseparator, hsign, hmarker⟩

instance (value : Nat) (c : Char) : Decidable (Digit value c) := decidable_of_iff' _ digit_iff

theorem digit_of_isDigitOf {value : Nat} (hvalue : value < 16) {c : Char} (h : IsDigitOf value c) :
    Digit value c := by
  have hboth : ∀ v < 16, Digit v (Nat.digitChar v) ∧ Digit v (Nat.digitChar v).toUpper := by decide
  obtain ⟨hlower, hupper⟩ := hboth value hvalue
  rcases h with rfl | rfl
  · exact hlower
  · exact hupper

theorem high_lt (byte : UInt8) : byte.toNat / 16 < 16 := by
  have := byte.toNat_lt
  omega

theorem low_lt (byte : UInt8) : byte.toNat % 16 < 16 := Nat.mod_lt _ (by decide)

/-- Every character of a row is a digit. -/
theorem Paired.digit {bytes : List UInt8} {row : List Char} (h : Paired bytes row) :
    ∀ c ∈ row, ∃ value, Digit value c := by
  induction h with
  | nil => simp
  | @cons byte bytes high low row hhigh hlow _ ih =>
      intro c hc
      rcases List.mem_cons.mp hc with rfl | hc
      · exact ⟨_, digit_of_isDigitOf (high_lt byte) hhigh⟩
      · rcases List.mem_cons.mp hc with rfl | hc
        · exact ⟨_, digit_of_isDigitOf (low_lt byte) hlow⟩
        · exact ih c hc

/-- The two digits of a byte are a numeral for it. -/
theorem readNumeral?_of_digits {byte : UInt8} {high low : Char} (hhigh : Digit (byte.toNat / 16) high)
    (hlow : Digit (byte.toNat % 16) low) : Text.readNumeral? 16 255 [high, low] = some byte.toNat := by
  have hsum : byte.toNat / 16 * 16 + byte.toNat % 16 = byte.toNat := by omega
  have hbound : byte.toNat ≤ 255 := by
    have := byte.toNat_lt
    omega
  have hdigits : Text.digits? 16 0 [high, low] = some byte.toNat := by
    simp [Text.digits?, hhigh.value, hlow.value, hsum]
  unfold Text.readNumeral?
  split
  · next heq => exact absurd (List.cons.inj heq).1 hhigh.sign
  · simp [hdigits, hbound]

/-- A digit is one byte of a text. -/
theorem Digit.exists_byte {value : Nat} {c : Char} (h : Digit value c) :
    ∃ b, String.utf8EncodeChar c = [b] := List.length_eq_one_iff.mp h.width

section

variable {x y : Char} {a b : UInt8} (ha : String.utf8EncodeChar x = [a])
  (hb : String.utf8EncodeChar y = [b])

include ha hb

theorem writeUtf8_pair (row : List Char) :
    Text.writeUtf8 (x :: y :: row) = a :: b :: Text.writeUtf8 row := by
  simp [Text.writeUtf8, ha, hb]

/-- Two characters of one byte each are read as the number that they are a numeral for. -/
theorem readPair_of_numeral {byte : UInt8} (hbyte : Text.readNumeral? 16 255 [x, y] = some byte.toNat) :
    readPair a b = .ok byte := by
  have htext : Text.readUtf8 [a, b] = [x, y] := by
    have hwrite : Text.writeUtf8 [x, y] = [a, b] := writeUtf8_pair ha hb []
    rw [← hwrite, Text.readUtf8_writeUtf8]
  rw [readPair, htext, hbyte]
  simp

end

/-- **A row of digits is read as its bytes**, which it takes two bytes of text each to write. -/
theorem readPairs_of_paired {bytes : List UInt8} {row : List Char} (h : Paired bytes row) :
    readPairs (Text.writeUtf8 row) = .ok bytes
      ∧ (Text.writeUtf8 row).length = 2 * bytes.length := by
  induction h with
  | nil => exact ⟨rfl, rfl⟩
  | @cons byte bytes high low row hhigh hlow _ ih =>
      obtain ⟨hread, hlength⟩ := ih
      have hhigh := digit_of_isDigitOf (high_lt byte) hhigh
      have hlow := digit_of_isDigitOf (low_lt byte) hlow
      obtain ⟨a, ha⟩ := hhigh.exists_byte
      obtain ⟨b, hb⟩ := hlow.exists_byte
      have hbyte := readPair_of_numeral ha hb (readNumeral?_of_digits hhigh hlow)
      rw [writeUtf8_pair ha hb]
      constructor
      · rw [readPairs, hbyte, hread]
        rfl
      · rw [List.length_cons, List.length_cons, hlength, List.length_cons]
        omega

/-! ## Chunks -/

/-- A chunk may be followed by nothing but the end of the text or a separator. -/
def EndsChunk (text : List Char) : Prop := text.head?.all isSeparator = true

instance (text : List Char) : Decidable (EndsChunk text) :=
  inferInstanceAs (Decidable (text.head?.all isSeparator = true))

/-- A text has a row of digits cut into chunks, each behind a marker or none, with separators in between
    and at both ends. -/
inductive Chunked : (row text : List Char) → Prop where
  | nil : Chunked [] []
  | separator {c : Char} {row text : List Char} (hc : isSeparator c = true) (h : Chunked row text) :
      Chunked row (c :: text)
  | chunk {marker run row text : List Char} (hmarker : marker ∈ [[], ['0', 'x'], ['0', 'X']])
      (hends : EndsChunk text) (h : Chunked row text) : Chunked (run ++ row) (marker ++ run ++ text)

/-- Two texts with a separator between them have both their rows. -/
theorem Chunked.append {row row' text text' : List Char} (h : Chunked row text) (h' : Chunked row' text')
    {c : Char} (hc : isSeparator c = true) : Chunked (row ++ row') (text ++ c :: text') := by
  induction h with
  | nil => exact .separator hc h'
  | separator hd _ ih => exact .separator hd ih
  | @chunk marker run row text hmarker hends _ ih =>
      have hends' : EndsChunk (text ++ c :: text') := by
        cases text with
        | nil => simpa [EndsChunk] using hc
        | cons d text => simpa [EndsChunk] using hends
      rw [List.append_assoc, List.append_assoc (marker ++ run)]
      exact .chunk hmarker hends' ih

theorem digits_separator {c : Char} (hc : isSeparator c = true) (text : List Char) :
    digits (c :: text) = digits text := by
  simp [digits, chunks, hc, withoutMarker, Text.afterHexMarker?]

/-- What stands in front of the first separator belongs to one chunk. -/
theorem chunks_append {run : List Char} (hrun : ∀ c ∈ run, isSeparator c = false) {text : List Char}
    (hends : EndsChunk text) : chunks (run ++ text) = run :: (chunks text).tail := by
  induction run with
  | nil =>
      cases text with
      | nil => rfl
      | cons c text =>
          have hc : isSeparator c = true := hends
          simp [chunks, hc]
  | cons c run ih =>
      obtain ⟨hc, hrun⟩ := List.forall_mem_cons.mp hrun
      simp [chunks, hc, ih hrun]

theorem digits_append {run : List Char} (hrun : ∀ c ∈ run, isSeparator c = false) {text : List Char}
    (hends : EndsChunk text) : digits (run ++ text) = withoutMarker run ++ digits text := by
  -- in front of a separator or the end there is an empty chunk, which has no digits
  have htext : chunks text = [] :: (chunks text).tail := chunks_append (List.forall_mem_nil _) hends
  have hdigits : digits text = (chunks text).tail.flatMap withoutMarker := by
    rw [digits, htext]
    rfl
  rw [hdigits, digits, chunks_append hrun hends, List.flatMap_cons]

/-- A marker is taken off in front of digits, and nothing where there is none. -/
theorem withoutMarker_append {marker run : List Char} (hmarker : marker ∈ [[], ['0', 'x'], ['0', 'X']])
    (hrun : ∀ c ∈ run, c ≠ 'x' ∧ c ≠ 'X') : withoutMarker (marker ++ run) = run := by
  rcases List.mem_cons.mp hmarker with rfl | hmarker
  · have hnone : Text.afterHexMarker? run = none := by
      unfold Text.afterHexMarker?
      split
      · exact absurd rfl (hrun 'x' (by simp)).1
      · exact absurd rfl (hrun 'X' (by simp)).2
      · rfl
    rw [List.nil_append, withoutMarker, hnone]
    rfl
  · rcases List.mem_cons.mp hmarker with rfl | hmarker
    · rfl
    · obtain rfl := List.mem_singleton.mp hmarker
      rfl

/-- **The digits of a text are the row that it was cut from.** -/
theorem digits_of_chunked {row text : List Char} (h : Chunked row text)
    (hrow : ∀ c ∈ row, ∃ value, Digit value c) : digits text = row := by
  induction h with
  | nil => rfl
  | separator hc _ ih => rw [digits_separator hc, ih hrow]
  | @chunk marker run row text hmarker hends _ ih =>
      obtain ⟨hrun, hlater⟩ := List.forall_mem_append.mp hrow
      have hplain : ∀ c ∈ marker ++ run, isSeparator c = false := by
        have hmarks : ∀ marker ∈ [[], ['0', 'x'], ['0', 'X']], marker.any isSeparator = false := by decide
        intro c hc
        rcases List.mem_append.mp hc with hc | hc
        · exact eq_false_of_ne_true (List.any_eq_false.mp (hmarks marker hmarker) c hc)
        · obtain ⟨value, hdigit⟩ := hrun c hc
          exact hdigit.separator
      have hunmarked : ∀ c ∈ run, c ≠ 'x' ∧ c ≠ 'X' := by
        intro c hc
        obtain ⟨value, hdigit⟩ := hrun c hc
        exact hdigit.marker
      rw [digits_append hplain hends, withoutMarker_append hmarker hunmarked, ih hlater]

/-- A chunked row of digits is read as its bytes. -/
theorem read_of_chunked {bytes : List UInt8} {row text : List Char} (hrow : Paired bytes row)
    (htext : Chunked row text) : read text = .ok bytes := by
  obtain ⟨hread, hlength⟩ := readPairs_of_paired hrow
  have heven : ¬ (Text.writeUtf8 row).length % 2 = 1 := by omega
  unfold read
  rw [digits_of_chunked htext hrow.digit]
  dsimp only
  rw [if_neg heven, hread]

/-! ## Arguments -/

/-- Arguments spell some bytes if each of them is a text of chunks and the rows of all, one after
    another, are the digits of the bytes. -/
def Spells (arguments : List String) (bytes : List UInt8) : Prop :=
  ∃ rows : List (List Char),
    List.Forall₂ (fun row argument => Chunked row argument.toList) rows arguments
      ∧ Paired bytes rows.flatten

/-- Arguments with blanks in between are one text of chunks. -/
theorem chunked_intercalate {rows : List (List Char)} {arguments : List String}
    (h : List.Forall₂ (fun row argument => Chunked row argument.toList) rows arguments) :
    Chunked rows.flatten (" ".intercalate arguments).toList := by
  induction h with
  | nil => exact .nil
  | @cons row argument rows arguments hrow hrows ih =>
      cases hrows with
      | nil => simpa using hrow
      | cons _ _ =>
          have hblank : isSeparator ' ' = true := by decide
          have htext := hrow.append ih hblank
          simpa using htext

/-- **All spellings of some bytes are read as these bytes.** -/
theorem read_of_spells {arguments : List String} {bytes : List UInt8} (h : Spells arguments bytes) :
    read (" ".intercalate arguments).toList = .ok bytes := by
  obtain ⟨rows, hrows, hpaired⟩ := h
  exact read_of_chunked hpaired (chunked_intercalate hrows)

/-- Every byte string has a spelling. -/
theorem exists_spells (bytes : List UInt8) : ∃ arguments, Spells arguments bytes := by
  have hrow : ∃ row, Paired bytes row := by
    induction bytes with
    | nil => exact ⟨[], .nil⟩
    | cons byte bytes ih =>
        obtain ⟨row, hrow⟩ := ih
        exact ⟨_, .cons (.inl rfl) (.inl rfl) hrow⟩
  obtain ⟨row, hrow⟩ := hrow
  have hwhole : Chunked row (String.ofList row).toList := by
    have hchunk : Chunked (row ++ []) ([] ++ row ++ []) := .chunk (by simp) (by simp [EndsChunk]) .nil
    simpa using hchunk
  exact ⟨[String.ofList row], [row], .cons hwhole .nil, by simpa using hrow⟩

end HexDump

/-! ## Files and arguments -/

namespace Command

variable {setup : Setup} {request : DecodeRequest} {bytes : List UInt8}

/-- The input of a command without a file is what its arguments spell. -/
theorem decodeInput_of_spells (hfile : request.file = none) (hhex : HexDump.Spells request.hex bytes) :
    decodeInput setup request = .ok bytes := by
  unfold decodeInput
  rw [hfile]
  dsimp only
  rw [HexDump.read_of_spells hhex]
  rfl

/-- The input of a command with a file is what the file holds. -/
theorem decodeInput_of_file {path : String} (hfile : request.file = some path)
    (hcontent : setup.fileContent path = .ok bytes) : decodeInput setup request = .ok bytes := by
  unfold decodeInput
  rw [hfile]
  dsimp only
  rw [hcontent]
  rfl

/-- **Files and arguments are interchangeable.** Every byte string has a spelling. Whatever spelling of
    the bytes the arguments are, the decode command ends as it does on a file that holds the bytes: with
    the same exit code, the same output, the same word of errors and the same events. The text of the
    tag, the count, the mode, the form of output and the verbosity may be any. -/
theorem interchange_law (bytes : List UInt8) :
    (∃ arguments, HexDump.Spells arguments bytes)
      ∧ ∀ (arguments : List String), HexDump.Spells arguments bytes →
          ∀ (setup : Setup) (path : String), setup.fileContent path = .ok bytes →
          ∀ (invocation : Invocation) (tag : String) (count : Option Nat) (strict : Bool),
            let spelled : Request := .decode { tag, hex := arguments, count, strict }
            let stored : Request := .decode { tag, file := some path, count, strict }
            run setup { invocation with request := spelled }
              = run setup { invocation with request := stored } := by
  refine ⟨HexDump.exists_spells bytes, ?_⟩
  intro arguments hspells setup path hcontent invocation tag count strict spelled stored
  let first : DecodeRequest := { tag, hex := arguments, count, strict }
  let second : DecodeRequest := { tag, file := some path, count, strict }
  have hfirst : decodeInput setup first = .ok bytes := decodeInput_of_spells rfl hspells
  have hsecond : decodeInput setup second = .ok bytes := decodeInput_of_file rfl hcontent
  have hlines : decodeLines setup first (invocation.format.getD setup.defaultFormat)
      = decodeLines setup second (invocation.format.getD setup.defaultFormat) := by
    refine decodeLines_congr ?_ ?_ ?_ (hfirst.trans hsecond.symm) _
    · rfl
    · rfl
    · rfl
  have hspelled : run setup { invocation with request := spelled } = _ := run_decode rfl hlines
  have hstored : run setup { invocation with request := stored } = _ := run_decode rfl rfl
  exact hspelled.trans hstored.symm

/-- Three bytes over two arguments: a marker, cuts inside the second byte and behind it, letters in both
    cases, and a separator of each kind. -/
theorem interchange_law_of_three_bytes :
    let bytes : List UInt8 := [0x01, 0xAB, 0xFF]
    let arguments : List String := [" 0x01:a", "B,0XfF"]
    let setup : Setup := { fileContent := fun _ => .ok bytes }
    let invocation (request : DecodeRequest) : Invocation :=
      { format := some .raw, logFormat := .text, verbosity := .upTo .trace, request := .decode request }
    HexDump.Spells arguments bytes ∧ setup.fileContent "unit.bin" = .ok bytes
      ∧ run setup (invocation { tag := "INT", hex := arguments, strict := true })
          = run setup (invocation { tag := "INT", file := some "unit.bin", strict := true })
      ∧ (run setup (invocation { tag := "INT", hex := arguments, strict := true })).stdout = "-21759\n" := by
  intro bytes arguments setup invocation
  have hfirst : HexDump.Chunked ['0', '1', 'a'] " 0x01:a".toList := by
    have hlast : HexDump.Chunked (['a'] ++ []) ([] ++ ['a'] ++ []) :=
      .chunk (by decide) (by decide) .nil
    have hmarked : HexDump.Chunked (['0', '1'] ++ ['a']) (['0', 'x'] ++ ['0', '1'] ++ [':', 'a']) :=
      .chunk (by decide) (by decide) (.separator (by decide) hlast)
    exact .separator (by decide) hmarked
  have hsecond : HexDump.Chunked ['B', 'f', 'F'] "B,0XfF".toList := by
    have hlast : HexDump.Chunked (['f', 'F'] ++ []) (['0', 'X'] ++ ['f', 'F'] ++ []) :=
      .chunk (by decide) (by decide) .nil
    have hplain : HexDump.Chunked (['B'] ++ ['f', 'F']) ([] ++ ['B'] ++ [',', '0', 'X', 'f', 'F']) :=
      .chunk (by decide) (by decide) (.separator (by decide) hlast)
    exact hplain
  have hpaired : HexDump.Paired bytes ['0', '1', 'a', 'B', 'f', 'F'] :=
    .cons (by decide) (by decide) (.cons (by decide) (by decide) (.cons (by decide) (by decide) .nil))
  have hspells : HexDump.Spells arguments bytes := ⟨_, .cons hfirst (.cons hsecond .nil), hpaired⟩
  have hsame := (interchange_law bytes).2 arguments hspells setup "unit.bin" rfl
    (invocation { tag := "INT" }) "INT" none true
  have hstored : (run setup (invocation { tag := "INT", file := some "unit.bin", strict := true })).stdout
      = "-21759\n" := by
    decide
  exact ⟨hspells, rfl, hsame, (congrArg Outcome.stdout hsame).trans hstored⟩

end Command

end CipUnits
