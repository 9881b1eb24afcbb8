import CipUnits.Proofs.Exit
import CipUnits.Proofs.Rendering
import Mathlib.Data.List.Forall2

/-!
# `CipUnits.Proofs.Acceptance` — what is accepted as a dump

`CipUnits.Proofs.Rendering` goes from bytes to the texts that are read as them. Here it is the other way:
any text may be given, and the question is what it is read as, if as anything.

A text leaves one row of characters. The pairs are cut from the bytes of that row, so that a character of
several bytes may be cut in two, and a pair may lie across two characters. But what is read is a numeral,
all of a numeral is ASCII, and nothing but ASCII is read as ASCII. So a pair that is read is two
characters of the row. They need not be digits: a numeral may start with a sign, and the reader of pairs
takes a sign and one digit for a byte.

## Contents
- **ASCII.** `readNumeral?_spec` and `lt_of_readUtf8_pair`.
- **What a text leaves.** `Cut`, `Unmarked` and `Leaves`; `leaves_iff`.
- **Pairs.** `Admits`, the two characters of a byte; `readPair_iff`.
- **Texts.** `Admitted`, a row of pairs; `read_iff`, and without a sign `Admitted.paired`.
- `acceptance_law` — what any text is read as; `signed_digit_is_read`, a text that is not digits.
-/

namespace CipUnits

namespace Text

/-! ## ASCII -/

/-- No digit of any base is outside of ASCII. -/
theorem digit?_of_wide {c : Char} (hwide : 128 ≤ c.toNat) (base : Nat) : digit? base c = none := by
  have hnot : ∀ d : Char, d.toNat < 128 → ¬ c ≤ d := by
    intro d hd hle
    have hle : c.toNat ≤ d.toNat := UInt32.le_iff_toNat_le.mp hle
    omega
  simp [digit?, hnot '9' (by decide), hnot 'z' (by decide), hnot 'Z' (by decide)]

theorem lt_of_digits? {base higher n : Nat} {run : List Char} (h : digits? base higher run = some n) :
    ∀ c ∈ run, c.toNat < 128 := by
  induction run generalizing higher with
  | nil => exact List.forall_mem_nil _
  | cons c run ih =>
      obtain ⟨value, hvalue, hlater⟩ := Option.bind_eq_some_iff.mp h
      have hc : c.toNat < 128 := by
        by_contra hwide
        rw [digit?_of_wide (Nat.le_of_not_lt hwide)] at hvalue
        cases hvalue
      exact List.forall_mem_cons.mpr ⟨hc, ih hlater⟩

/-- A numeral is at most the largest value, and all of it is ASCII. -/
theorem readNumeral?_spec {base largest n : Nat} {text : List Char}
    (h : readNumeral? base largest text = some n) : n ≤ largest ∧ ∀ c ∈ text, c.toNat < 128 := by
  unfold readNumeral? at h
  split at h
  · next rest =>
      rw [Option.ite_none_left_eq_some, Option.filter_eq_some_iff] at h
      exact ⟨of_decide_eq_true h.2.2, List.forall_mem_cons.mpr ⟨by decide, lt_of_digits? h.2.1⟩⟩
  · rw [Option.ite_none_left_eq_some, Option.filter_eq_some_iff] at h
    exact ⟨of_decide_eq_true h.2.2, lt_of_digits? h.2.1⟩

/-- A byte outside of ASCII is replaced, or begins a character of several bytes. A character of two bytes
    is outside of ASCII. -/
theorem begin_of_wide {b : UInt8} (hb : ¬ b < 0x80) :
    begin b = ([replacement], none)
      ∨ ∃ u : Unfinished, begin b = ([], some u) ∧ (u.left = 0 → 2 ≤ u.bits ∧ u.bits < 32) := by
  unfold begin
  rw [if_neg hb]
  split
  · exact .inl rfl
  · next hlow =>
    split
    · next hhigh =>
      have hlow : 0xC2 ≤ b.toNat := UInt8.le_iff_toNat_le.mp (UInt8.not_lt.mp hlow)
      have hhigh : b.toNat < 0xE0 := UInt8.lt_iff_toNat_lt.mp hhigh
      exact .inr ⟨_, rfl, fun _ => by dsimp only; omega⟩
    · split
      · exact .inr ⟨_, rfl, nofun⟩
      · split
        · exact .inr ⟨_, rfl, nofun⟩
        · exact .inl rfl

theorem toNat_ofNat_of_isValidChar {n : Nat} (hvalid : n.isValidChar) : (Char.ofNat n).toNat = n := by
  rw [Char.ofNat, dif_pos hvalid]
  rfl

/-- **Nothing but ASCII is read as ASCII** from two bytes. -/
theorem lt_of_readUtf8_pair {a b : UInt8} (h : ∀ c ∈ readUtf8 [a, b], c.toNat < 128) :
    a < 0x80 ∧ b < 0x80 := by
  have hreplaced : replacement ∉ readUtf8 [a, b] := fun hmem => absurd (h _ hmem) (by decide)
  have htext : readUtf8 [a, b] = (begin a).1 ++ readUtf8From (begin a).2 [b] := rfl
  rw [htext] at h hreplaced
  by_cases ha : a < 0x80
  · refine ⟨ha, ?_⟩
    by_contra hb
    have hbegin : begin a = ([Char.ofNat a.toNat], none) := if_pos ha
    rw [hbegin] at hreplaced
    rcases begin_of_wide hb with hb | ⟨u, hb, -⟩
    · simp [readUtf8From, advance, hb] at hreplaced
    · simp [readUtf8From, advance, hb] at hreplaced
  · exfalso
    rcases begin_of_wide ha with ha | ⟨u, ha, hbits⟩
    · simp [ha] at hreplaced
    · rw [ha] at h hreplaced
      by_cases hrange : u.low ≤ b ∧ b ≤ u.high
      · by_cases hleft : u.left = 0
        · -- the two bytes are one character, and nothing is replaced
          simp only [readUtf8From, advance, if_pos hrange, if_pos hleft] at h
          obtain ⟨hlow, hhigh⟩ := hbits hleft
          have hvalid : (u.bits * 64 + b.toNat % 64).isValidChar := .inl (by omega)
          have hnarrow := h (Char.ofNat (u.bits * 64 + b.toNat % 64)) (by simp)
          rw [toNat_ofNat_of_isValidChar hvalid] at hnarrow
          omega
        · simp [readUtf8From, advance, if_pos hrange, if_neg hleft] at hreplaced
      · simp [readUtf8From, advance, if_neg hrange] at hreplaced

/-- A byte of ASCII is its character. -/
theorem exists_char_of_lt {a : UInt8} (ha : a < 0x80) :
    ∃ x, String.utf8EncodeChar x = [a] ∧ ∀ bytes, readUtf8 (a :: bytes) = x :: readUtf8 bytes := by
  have ha' : a.toNat < 128 := UInt8.lt_iff_toNat_lt.mp ha
  have hvalid : a.toNat.isValidChar := .inl (by omega)
  have hc : (Char.ofNat a.toNat).toNat = a.toNat := toNat_ofNat_of_isValidChar hvalid
  refine ⟨Char.ofNat a.toNat, ?_, ?_⟩
  · rw [String.utf8EncodeChar, Char.toNat_val, hc]
    simp [Nat.le_of_lt_succ ha']
  · intro bytes
    have hbegin : begin a = ([Char.ofNat a.toNat], none) := if_pos ha
    simp [readUtf8, readUtf8From, advance, hbegin]

end Text

namespace HexDump

/-! ## What a text leaves -/

/-- A text is cut into the pieces between its separators. -/
inductive Cut : (text : List Char) → (pieces : List (List Char)) → Prop where
  | last {piece : List Char} (hpiece : ∀ c ∈ piece, ¬ Separates c) : Cut piece [piece]
  | more {piece text : List Char} {pieces : List (List Char)} {c : Char}
      (hpiece : ∀ c ∈ piece, ¬ Separates c) (hc : Separates c) (hlater : Cut text pieces) :
      Cut (piece ++ c :: text) (piece :: pieces)

/-- A piece without the marker that it starts with, if it starts with one. -/
inductive Unmarked : (piece row : List Char) → Prop where
  | marked {marker row : List Char} (hmarker : marker ∈ [['0', 'x'], ['0', 'X']]) :
      Unmarked (marker ++ row) row
  | plain {piece : List Char} (hplain : ∀ marker ∈ [['0', 'x'], ['0', 'X']], ¬ marker <+: piece) :
      Unmarked piece piece

/-- What a text leaves without its separators and without a marker at the start of each piece. -/
def Leaves (text row : List Char) : Prop :=
  ∃ pieces rows, Cut text pieces ∧ List.Forall₂ Unmarked pieces rows ∧ rows.flatten = row

theorem Cut.cons {c : Char} {text piece : List Char} {pieces : List (List Char)} (hc : ¬ Separates c)
    (h : Cut text (piece :: pieces)) : Cut (c :: text) ((c :: piece) :: pieces) := by
  cases h with
  | last hpiece => exact .last (List.forall_mem_cons.mpr ⟨hc, hpiece⟩)
  | more hpiece hd hlater => exact .more (List.forall_mem_cons.mpr ⟨hc, hpiece⟩) hd hlater

theorem chunks_of_cut {text : List Char} {pieces : List (List Char)} (h : Cut text pieces) :
    chunks text = pieces := by
  have hplain : ∀ {piece : List Char}, (∀ c ∈ piece, ¬ Separates c) →
      ∀ c ∈ piece, isSeparator c = false :=
    fun hpiece c hc => eq_false_of_ne_true (mt isSeparator_iff.mp (hpiece c hc))
  induction h with
  | @last piece hpiece =>
      have hends : EndsChunk [] := by decide
      have hchunks := chunks_append (hplain hpiece) hends
      rw [List.append_nil] at hchunks
      exact hchunks
  | @more piece text pieces c hpiece hc _ ih =>
      have hc : isSeparator c = true := isSeparator_iff.mpr hc
      have hlater : chunks (c :: text) = [] :: chunks text := by rw [chunks, if_pos hc]
      have hends : EndsChunk (c :: text) := hc
      rw [chunks_append (hplain hpiece) hends, hlater, ih]
      rfl

theorem cut_chunks (text : List Char) : Cut text (chunks text) := by
  induction text with
  | nil => exact .last (List.forall_mem_nil _)
  | cons c text ih =>
      by_cases hc : isSeparator c = true
      · rw [chunks, if_pos hc]
        exact .more (List.forall_mem_nil _) (isSeparator_iff.mp hc) ih
      · have hplain : ¬ Separates c := mt isSeparator_iff.mpr hc
        rw [chunks, if_neg hc]
        cases hchunks : chunks text with
        | nil =>
            rw [hchunks] at ih
            cases ih
        | cons piece pieces =>
            rw [hchunks] at ih
            exact ih.cons hplain

theorem unmarked_iff {piece row : List Char} : Unmarked piece row ↔ withoutMarker piece = row := by
  constructor
  · intro h
    cases h with
    | marked hmarker =>
        rcases List.mem_pair.mp hmarker with rfl | rfl <;> rfl
    | plain hplain =>
        unfold withoutMarker Text.afterHexMarker?
        split
        · exact absurd ⟨_, rfl⟩ (hplain ['0', 'x'] (by decide))
        · exact absurd ⟨_, rfl⟩ (hplain ['0', 'X'] (by decide))
        · rfl
  · rintro rfl
    have hlower : ['0', 'x'] ∈ [['0', 'x'], ['0', 'X']] := by decide
    have hupper : ['0', 'X'] ∈ [['0', 'x'], ['0', 'X']] := by decide
    unfold withoutMarker Text.afterHexMarker?
    split
    · exact .marked hlower
    · exact .marked hupper
    · next hlower hupper =>
        refine .plain ?_
        intro marker hmarker
        rcases List.mem_pair.mp hmarker with rfl | rfl
        · rintro ⟨row, rfl⟩
          exact hlower row rfl
        · rintro ⟨row, rfl⟩
          exact hupper row rfl

/-- **The digits that are read are what the text leaves**, and nothing else is left by it. -/
theorem leaves_iff {text row : List Char} : Leaves text row ↔ digits text = row := by
  have hrows : ∀ {pieces rows : List (List Char)},
      List.Forall₂ Unmarked pieces rows ↔ pieces.map withoutMarker = rows := by
    intro pieces rows
    have hrelation : Unmarked = fun piece row => withoutMarker piece = row := by
      funext piece row
      exact propext unmarked_iff
    rw [hrelation, ← List.forall₂_map_left_iff (R := Eq), List.forall₂_eq_eq_eq]
  constructor
  · rintro ⟨pieces, rows, hcut, hunmarked, rfl⟩
    rw [← hrows.mp hunmarked, ← chunks_of_cut hcut]
    exact List.flatMap_def
  · rintro rfl
    exact ⟨_, _, cut_chunks text, hrows.mpr rfl, List.flatMap_def.symm⟩

/-! ## Pairs -/

theorem isDigitOf_of_digit? {value : Nat} {c : Char} (h : Text.digit? 16 c = some value) :
    value < 16 ∧ IsDigitOf value c := by
  by_cases hwide : 128 ≤ c.toNat
  · rw [Text.digit?_of_wide hwide] at h
    cases h
  · have hnarrow : ∀ n < 128, ∀ value ∈ Text.digit? 16 (Char.ofNat n),
        value < 16 ∧ IsDigitOf value (Char.ofNat n) := by
      decide
    have hc := hnarrow c.toNat (Nat.lt_of_not_le hwide) value
    rw [Char.ofNat_toNat] at hc
    exact hc h

/-- The two characters of a byte: its digits, or a sign in front of a byte of one digit. -/
inductive Admits (byte : UInt8) : (x y : Char) → Prop where
  | digits {high low : Char} (hhigh : IsDigitOf (byte.toNat / 16) high)
      (hlow : IsDigitOf (byte.toNat % 16) low) : Admits byte high low
  | signed {low : Char} (hbyte : byte.toNat < 16) (hlow : IsDigitOf byte.toNat low) : Admits byte '+' low

theorem digits?_single {c : Char} {value : Nat} :
    Text.digits? 16 0 [c] = some value ↔ Text.digit? 16 c = some value := by
  cases hc : Text.digit? 16 c <;> simp [Text.digits?, hc]

/-- A numeral for a byte of two characters. -/
theorem readNumeral?_pair_iff {byte : UInt8} {x y : Char} :
    Text.readNumeral? 16 255 [x, y] = some byte.toNat ↔ Admits byte x y := by
  have hbound : byte.toNat ≤ 255 := Nat.le_of_lt_succ byte.toNat_lt
  constructor
  · intro h
    by_cases hsign : x = '+'
    · subst hsign
      simp only [Text.readNumeral?, List.isEmpty_cons, Bool.false_eq_true, if_false,
        Option.filter_eq_some_iff, digits?_single] at h
      obtain ⟨hbyte, hlow⟩ := isDigitOf_of_digit? h.1
      exact .signed hbyte hlow
    · have hplain : Text.readNumeral? 16 255 [x, y] = (Text.digits? 16 0 [x, y]).filter (· ≤ 255) := by
        unfold Text.readNumeral?
        split
        · next heq => exact absurd (List.cons.inj heq).1 hsign
        · rfl
      rw [hplain, Option.filter_eq_some_iff] at h
      obtain ⟨high, hhigh, hvalue⟩ := Option.bind_eq_some_iff.mp h.1
      obtain ⟨low, hlow, hvalue⟩ := Option.bind_eq_some_iff.mp hvalue
      obtain ⟨hhighLt, hhigh⟩ := isDigitOf_of_digit? hhigh
      obtain ⟨hlowLt, hlow⟩ := isDigitOf_of_digit? hlow
      have hsum : (0 * 16 + high) * 16 + low = byte.toNat := Option.some.inj hvalue
      have hhighValue : high = byte.toNat / 16 := by omega
      have hlowValue : low = byte.toNat % 16 := by omega
      rw [hhighValue] at hhigh
      rw [hlowValue] at hlow
      exact .digits hhigh hlow
  · rintro (⟨hhigh, hlow⟩ | ⟨hbyte, hlow⟩)
    · exact readNumeral?_of_digits (digit_of_isDigitOf (high_lt byte) hhigh)
        (digit_of_isDigitOf (low_lt byte) hlow)
    · have hvalue := (digit_of_isDigitOf hbyte hlow).value
      simp [Text.readNumeral?, digits?_single.mpr hvalue, hbound]

/-- **A pair that is read is two characters**, and these are admitted for the byte. -/
theorem readPair_iff {a b byte : UInt8} :
    readPair a b = .ok byte
      ↔ ∃ x y, String.utf8EncodeChar x = [a] ∧ String.utf8EncodeChar y = [b] ∧ Admits byte x y := by
  constructor
  · intro h
    unfold readPair at h
    split at h
    · next n hnumeral =>
        obtain ⟨hbound, hnarrow⟩ := Text.readNumeral?_spec hnumeral
        obtain ⟨ha, hb⟩ := Text.lt_of_readUtf8_pair hnarrow
        obtain ⟨x, hx, hreadx⟩ := Text.exists_char_of_lt ha
        obtain ⟨y, hy, hready⟩ := Text.exists_char_of_lt hb
        have htext : Text.readUtf8 [a, b] = [x, y] := by rw [hreadx, hready]; rfl
        have hbyte : byte.toNat = n := by
          rw [← Except.ok.inj h, UInt8.toNat_ofNat']
          omega
        rw [htext, ← hbyte] at hnumeral
        exact ⟨x, y, hx, hy, readNumeral?_pair_iff.mp hnumeral⟩
    · cases h
  · rintro ⟨x, y, hx, hy, hadmits⟩
    exact readPair_of_numeral hx hy (readNumeral?_pair_iff.mpr hadmits)

/-! ## Texts -/

/-- A row has two characters for each byte, which are admitted for it. -/
inductive Admitted : List UInt8 → List Char → Prop where
  | nil : Admitted [] []
  | cons {byte : UInt8} {bytes : List UInt8} {x y : Char} {row : List Char} (hpair : Admits byte x y)
      (hrow : Admitted bytes row) : Admitted (byte :: bytes) (x :: y :: row)

/-- The characters of a byte take one byte of text each. -/
theorem Admits.exists_bytes {byte : UInt8} {x y : Char} (h : Admits byte x y) :
    ∃ a b, String.utf8EncodeChar x = [a] ∧ String.utf8EncodeChar y = [b] := by
  cases h with
  | digits hhigh hlow =>
      obtain ⟨a, ha⟩ := (digit_of_isDigitOf (high_lt byte) hhigh).exists_byte
      obtain ⟨b, hb⟩ := (digit_of_isDigitOf (low_lt byte) hlow).exists_byte
      exact ⟨a, b, ha, hb⟩
  | signed hbyte hlow =>
      obtain ⟨b, hb⟩ := (digit_of_isDigitOf hbyte hlow).exists_byte
      exact ⟨'+'.toUInt8, b, rfl, hb⟩

theorem readPairs_cons_iff {a b : UInt8} {pairs bytes : List UInt8} :
    readPairs (a :: b :: pairs) = .ok bytes
      ↔ ∃ byte later, readPair a b = .ok byte ∧ readPairs pairs = .ok later ∧ byte :: later = bytes := by
  constructor
  · intro h
    rw [readPairs] at h
    cases hbyte : readPair a b with
    | error e =>
        rw [hbyte] at h
        cases h
    | ok byte =>
        cases hlater : readPairs pairs with
        | error e =>
            rw [hbyte, hlater] at h
            cases h
        | ok later =>
            rw [hbyte, hlater] at h
            exact ⟨byte, later, rfl, rfl, Except.ok.inj h⟩
  · rintro ⟨byte, later, hbyte, hlater, rfl⟩
    rw [readPairs, hbyte, hlater]
    rfl

/-- Pairs that are read as bytes are written from characters that are admitted for these. -/
theorem admitted_of_readPairs {pairs bytes : List UInt8} {row : List Char}
    (hwrite : Text.writeUtf8 row = pairs) (heven : pairs.length % 2 = 0)
    (hread : readPairs pairs = .ok bytes) : Admitted bytes row := by
  -- what the characters of the row are can only be told from their bytes
  have hrow : Text.readUtf8 pairs = row := hwrite ▸ Text.readUtf8_writeUtf8 row
  induction pairs using readPairs.induct generalizing bytes row with
  | case1 a b pairs ih =>
      obtain ⟨byte, later, hbyte, hlater, rfl⟩ := readPairs_cons_iff.mp hread
      obtain ⟨x, y, ha, hb, hpair⟩ := readPair_iff.mp hbyte
      have hchars : Text.readUtf8 (a :: b :: pairs) = x :: y :: Text.readUtf8 pairs := by
        have hx := Text.readUtf8From_utf8EncodeChar x (String.utf8EncodeChar y ++ pairs)
        rw [Text.readUtf8From_utf8EncodeChar y pairs, ha, hb] at hx
        exact hx
      rw [hchars] at hrow
      subst hrow
      rw [writeUtf8_pair ha hb] at hwrite
      have hlaterWrite : Text.writeUtf8 (Text.readUtf8 pairs) = pairs :=
        (List.cons.inj (List.cons.inj hwrite).2).2
      rw [List.length_cons, List.length_cons] at heven
      exact .cons hpair (ih hlaterWrite (by omega) hlater rfl)
  | case2 pairs hfew =>
      match pairs, hfew with
      | [], _ =>
          subst hrow
          cases hread
          exact .nil
      | [a], _ => cases heven
      | a :: b :: pairs, hfew => exact absurd rfl (hfew a b pairs)

/-- A row is read as bytes, pair by pair, exactly if it is admitted for these. -/
theorem readPairs_iff {bytes : List UInt8} {row : List Char} :
    (Text.writeUtf8 row).length % 2 = 0 ∧ readPairs (Text.writeUtf8 row) = .ok bytes
      ↔ Admitted bytes row := by
  constructor
  · rintro ⟨heven, hread⟩
    exact admitted_of_readPairs rfl heven hread
  · intro h
    induction h with
    | nil => exact ⟨rfl, rfl⟩
    | @cons byte bytes x y row hpair _ ih =>
        obtain ⟨heven, hread⟩ := ih
        obtain ⟨a, b, ha, hb⟩ := hpair.exists_bytes
        have hbyte := readPair_iff.mpr ⟨x, y, ha, hb, hpair⟩
        rw [writeUtf8_pair ha hb]
        constructor
        · rw [List.length_cons, List.length_cons]
          omega
        · exact readPairs_cons_iff.mpr ⟨byte, bytes, hbyte, hread, rfl⟩

/-- **A text is read as bytes exactly if what it leaves is admitted for these.** -/
theorem read_iff {text : List Char} {bytes : List UInt8} :
    read text = .ok bytes ↔ Admitted bytes (digits text) := by
  rw [← readPairs_iff, read]
  split
  · next hodd => simp [hodd]
  · next heven => simp [Nat.mod_two_ne_one.mp heven]

/-- A row of digits is admitted for its bytes. -/
theorem Paired.admitted {bytes : List UInt8} {row : List Char} (h : Paired bytes row) :
    Admitted bytes row := by
  induction h with
  | nil => exact .nil
  | cons hhigh hlow _ ih => exact .cons (.digits hhigh hlow) ih

/-- Without a sign, nothing but a row of digits is admitted. -/
theorem Admitted.paired {bytes : List UInt8} {row : List Char} (h : Admitted bytes row)
    (hunsigned : '+' ∉ row) : Paired bytes row := by
  induction h with
  | nil => exact .nil
  | cons hpair _ ih =>
      simp only [List.mem_cons, not_or] at hunsigned
      have hrow := ih hunsigned.2.2
      cases hpair with
      | digits hhigh hlow => exact .cons hhigh hlow hrow
      | signed => exact absurd rfl hunsigned.1

end HexDump

/-! ## The law -/

namespace Command

open HexDump

/-- A text is no dump, and a decode command that is given it fails as a mistake of the caller. -/
def Rejected (text : List Char) : Prop :=
  ∃ e, HexDump.read text = .error e
    ∧ ∀ (setup : Setup) (invocation : Invocation) (request : DecodeRequest),
        invocation.request = .decode request → request.file = none →
        (" ".intercalate request.hex).toList = text →
        ∃ message, (run setup invocation).Fails 64 message
          ∧ ∀ tag, Tag.parse request.tag = .ok tag → message = e.message

theorem rejected_of_error {text : List Char} {e : HexDump.Error} (h : HexDump.read text = .error e) :
    Rejected text := by
  refine ⟨e, h, ?_⟩
  rintro setup invocation request hrequest hfile rfl
  have hstages : Staged setup invocation request := staged hrequest
  cases htag : Tag.parse request.tag with
  | error unknown => exact ⟨_, hstages.tag unknown htag, nofun⟩
  | ok tag => exact ⟨_, hstages.hex tag e htag hfile h, fun _ _ => rfl⟩

/-- **What is accepted.** A text leaves one row of characters, without its separators and without a marker
    at the start of each piece. It is read as some bytes exactly if the row has two characters for each
    of them: its digits, or a sign and the digit of a byte below sixteen. So without a sign in the row it
    is digits and nothing else that is accepted, two for each byte, and every other text is rejected. -/
theorem acceptance_law (text : List Char) :
    ∃ row, Leaves text row ∧ (∀ other, Leaves text other → other = row)
      ∧ (∀ bytes, HexDump.read text = .ok bytes ↔ Admitted bytes row)
      ∧ ('+' ∉ row → ∀ bytes, HexDump.read text = .ok bytes ↔ Paired bytes row)
      ∧ ((∀ bytes, ¬ Admitted bytes row) → Rejected text) := by
  refine ⟨digits text, leaves_iff.mpr rfl, fun other h => (leaves_iff.mp h).symm, fun bytes => read_iff,
    ?_, ?_⟩
  · intro hunsigned bytes
    exact read_iff.trans ⟨fun h => h.paired hunsigned, Paired.admitted⟩
  · intro hnone
    cases hread : HexDump.read text with
    | error e => exact rejected_of_error hread
    | ok bytes => exact absurd (read_iff.mp hread) (hnone bytes)

/-- A byte behind a marker is read. A letter that is no digit is rejected. -/
theorem acceptance_law_of_two_texts :
    let setup : Setup := { fileContent := fun _ => .error .endOfInput }
    let request : DecodeRequest := { tag := "USINT", hex := ["0x0g"] }
    let invocation : Invocation :=
      { format := some .raw, logFormat := .text, verbosity := .off, request := .decode request }
    HexDump.read "0xaB".toList = .ok [0xAB] ∧ (run setup invocation).exitCode = 64 := by
  intro setup request invocation
  constructor
  · obtain ⟨row, -, hunique, -, hread, -⟩ := acceptance_law "0xaB".toList
    have hrow : Leaves "0xaB".toList ['a', 'B'] := leaves_iff.mpr (by decide)
    obtain rfl := hunique _ hrow
    exact (hread (by decide) _).mpr (.cons (by decide) (by decide) .nil)
  · obtain ⟨row, -, hunique, -, -, hrejected⟩ := acceptance_law "0x0g".toList
    have hrow : Leaves "0x0g".toList ['0', 'g'] := leaves_iff.mpr (by decide)
    obtain rfl := hunique _ hrow
    have hnone : ∀ bytes, ¬ Admitted bytes ['0', 'g'] := by
      intro bytes h
      cases h with
      | @cons byte bytes _ _ _ hpair hrow =>
          cases hpair with
          | digits hhigh hlow =>
              have hvalue := (digit_of_isDigitOf (low_lt byte) hlow).value
              have hno : Text.digit? 16 'g' = none := by decide
              exact absurd (hno.symm.trans hvalue) nofun
    obtain ⟨e, -, hruns⟩ := hrejected hnone
    obtain ⟨message, hfails, -⟩ := hruns setup invocation request rfl rfl (by decide)
    exact hfails.1

/-- A sign is read as a digit that is not there: the command line succeeds, and prints a byte. -/
theorem signed_digit_is_read :
    let setup : Setup := { fileContent := fun _ => .error .endOfInput }
    ∃ (invocation : Invocation) (request : DecodeRequest),
      Invocation.parse (fun _ => none)
          ["--log-level", "off", "--format", "raw", "decode", "USINT", "+5"] = .ok invocation
        ∧ invocation.request = .decode request
        ∧ (" ".intercalate request.hex).toList = ['+', '5']
        ∧ HexDump.read ['+', '5'] = .ok [0x05]
        ∧ (∀ row, Leaves ['+', '5'] row → ¬ ∃ bytes, Paired bytes row)
        ∧ (run setup invocation).exitCode = 0 ∧ (run setup invocation).stdout = "5\n" := by
  intro setup
  let request : DecodeRequest := { tag := "USINT", hex := ["+5"] }
  let invocation : Invocation :=
    { format := some .raw, logFormat := .text, verbosity := .off, request := .decode request }
  refine ⟨invocation, request, ?_, rfl, ?_, ?_, ?_, ?_, ?_⟩
  · decide
  · decide
  · decide
  · rintro row hrow ⟨bytes, hpaired⟩
    obtain rfl := leaves_iff.mp hrow
    obtain ⟨value, hdigit⟩ := hpaired.digit '+' (by decide)
    exact hdigit.sign rfl
  · decide
  · decide

end Command

end CipUnits
