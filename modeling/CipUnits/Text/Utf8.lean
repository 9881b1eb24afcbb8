/-!
# `CipUnits.Text.Utf8` — reading bytes as UTF-8, with a replacement for what is not

Every byte string has a text: well-formed sequences are read as their characters, and each maximal
part that begins a character without completing it becomes one replacement character.

## Contents
- `Unfinished` — a character whose first bytes have been read, with the range its next byte must lie in.
- `begin` and `advance` — what one byte adds to the text, at the start of a character and inside one.
- `readUtf8` — the text of a byte string.
- `writeUtf8` — the bytes of a text; `readUtf8_writeUtf8`: they are read as that text.
-/

namespace CipUnits.Text

/-- Stands in the text for bytes that are not UTF-8. -/
def replacement : Char := '\uFFFD'

/-- A character of several bytes that is still being read. -/
structure Unfinished where
  /-- The bits of the code point read so far. -/
  bits : Nat
  /-- How many bytes follow after the next one. -/
  left : Nat
  /-- The least value of the next byte. -/
  low : UInt8
  /-- The greatest value of the next byte. -/
  high : UInt8
deriving DecidableEq, Repr

/-- What a byte adds where a character starts: a character, or the beginning of a longer one. The
    ranges leave out overlong forms, surrogates and code points above U+10FFFF. -/
def begin (b : UInt8) : List Char × Option Unfinished :=
  if b < 0x80 then ([Char.ofNat b.toNat], none)
  else if b < 0xC2 then ([replacement], none)
  else if b < 0xE0 then ([], some ⟨b.toNat % 32, 0, 0x80, 0xBF⟩)
  else if b < 0xF0 then
    ([], some ⟨b.toNat % 16, 1, if b = 0xE0 then 0xA0 else 0x80, if b = 0xED then 0x9F else 0xBF⟩)
  else if b < 0xF5 then
    ([], some ⟨b.toNat % 8, 2, if b = 0xF0 then 0x90 else 0x80, if b = 0xF4 then 0x8F else 0xBF⟩)
  else ([replacement], none)

/-- What a byte adds to the text, given the character it may continue. A byte that does not continue
    it ends it with a replacement and starts a character of its own. -/
def advance : Option Unfinished → UInt8 → List Char × Option Unfinished
  | none, b => begin b
  | some u, b =>
      if u.low ≤ b ∧ b ≤ u.high then
        let bits := u.bits * 64 + b.toNat % 64
        if u.left = 0 then ([Char.ofNat bits], none) else ([], some ⟨bits, u.left - 1, 0x80, 0xBF⟩)
      else (replacement :: (begin b).1, (begin b).2)

/-- The text of bytes that follow an unfinished character, if there is one. -/
def readUtf8From : Option Unfinished → List UInt8 → List Char
  | u, [] => if u.isSome then [replacement] else []
  | u, b :: bs => (advance u b).1 ++ readUtf8From (advance u b).2 bs

/-- The text of a byte string, each maximal part that is not UTF-8 replaced by one character. -/
def readUtf8 (bytes : List UInt8) : List Char := readUtf8From none bytes

/-- The bytes of a text. -/
def writeUtf8 (text : List Char) : List UInt8 := text.flatMap String.utf8EncodeChar

/-! ## Reading what was written -/

theorem readUtf8From_cons (u : Option Unfinished) (b : UInt8) (bs : List UInt8) :
    readUtf8From u (b :: bs) = (advance u b).1 ++ readUtf8From (advance u b).2 bs := rfl

/-- A byte in the range continues a character. -/
theorem advance_some {u : Unfinished} {b : UInt8} (hlow : u.low ≤ b) (hhigh : b ≤ u.high) :
    advance (some u) b
      = if u.left = 0 then ([Char.ofNat (u.bits * 64 + b.toNat % 64)], none)
        else ([], some ⟨u.bits * 64 + b.toNat % 64, u.left - 1, 0x80, 0xBF⟩) := by
  simp only [advance, hlow, hhigh, and_self, if_true]

/-- The last byte of a character, in six bits. -/
theorem advance_last {bits k : Nat} {low high : UInt8} (hk : k < 64)
    (hlow : low.toNat ≤ k + 128) (hhigh : k + 128 ≤ high.toNat) :
    advance (some ⟨bits, 0, low, high⟩) (UInt8.ofNat (k + 128)) = ([Char.ofNat (bits * 64 + k)], none) := by
  have hb : (UInt8.ofNat (k + 128)).toNat = k + 128 := by
    simp only [UInt8.toNat_ofNat']
    omega
  rw [advance_some (UInt8.le_iff_toNat_le.mpr (by rw [hb]; exact hlow))
    (UInt8.le_iff_toNat_le.mpr (by rw [hb]; exact hhigh))]
  simp only [hb, if_true]
  have : (k + 128) % 64 = k := by omega
  rw [this]

/-- A byte in the middle of a character, in six bits. -/
theorem advance_middle {bits left k : Nat} {low high : UInt8} (hk : k < 64)
    (hlow : low.toNat ≤ k + 128) (hhigh : k + 128 ≤ high.toNat) :
    advance (some ⟨bits, left + 1, low, high⟩) (UInt8.ofNat (k + 128))
      = ([], some ⟨bits * 64 + k, left, 0x80, 0xBF⟩) := by
  have hb : (UInt8.ofNat (k + 128)).toNat = k + 128 := by
    simp only [UInt8.toNat_ofNat']
    omega
  rw [advance_some (UInt8.le_iff_toNat_le.mpr (by rw [hb]; exact hlow))
    (UInt8.le_iff_toNat_le.mpr (by rw [hb]; exact hhigh))]
  simp only [hb, Nat.add_eq_zero_iff, Nat.succ_ne_self, and_false, if_false, Nat.add_sub_cancel]
  have : (k + 128) % 64 = k := by omega
  simp [this]

theorem begin_of_two {k : Nat} (h2 : 2 ≤ k) (hk : k < 32) :
    begin (UInt8.ofNat (k + 192)) = ([], some ⟨k, 0, 0x80, 0xBF⟩) := by
  revert h2
  exact (by decide : ∀ j < 32, 2 ≤ j → begin (UInt8.ofNat (j + 192)) = ([], some ⟨j, 0, 0x80, 0xBF⟩)) k hk

theorem begin_of_three {k : Nat} (hk : k < 16) :
    begin (UInt8.ofNat (k + 224))
      = ([], some ⟨k, 1, if k = 0 then 0xA0 else 0x80, if k = 13 then 0x9F else 0xBF⟩) :=
  (by decide : ∀ j < 16, begin (UInt8.ofNat (j + 224))
    = ([], some ⟨j, 1, if j = 0 then 0xA0 else 0x80, if j = 13 then 0x9F else 0xBF⟩)) k hk

theorem begin_of_four {k : Nat} (hk : k < 5) :
    begin (UInt8.ofNat (k + 240))
      = ([], some ⟨k, 2, if k = 0 then 0x90 else 0x80, if k = 4 then 0x8F else 0xBF⟩) :=
  (by decide : ∀ j < 5, begin (UInt8.ofNat (j + 240))
    = ([], some ⟨j, 2, if j = 0 then 0x90 else 0x80, if j = 4 then 0x8F else 0xBF⟩)) k hk

/-- The bytes of a character are read as that character, whatever follows. -/
theorem readUtf8From_utf8EncodeChar (c : Char) (bs : List UInt8) :
    readUtf8From none (String.utf8EncodeChar c ++ bs) = c :: readUtf8From none bs := by
  have hc : Char.ofNat c.val.toNat = c := Char.ofNat_toNat c
  have hvalid : c.val.toNat < 0xD800 ∨ 0xDFFF < c.val.toNat ∧ c.val.toNat < 0x110000 := c.valid
  unfold String.utf8EncodeChar
  dsimp only
  generalize c.val.toNat = n at hc hvalid
  subst hc
  by_cases h1 : n ≤ 127
  · have hb : (UInt8.ofNat n).toNat = n := by
      simp only [UInt8.toNat_ofNat']
      omega
    have hlt : UInt8.ofNat n < 0x80 := UInt8.lt_iff_toNat_lt.mpr (by rw [hb]; exact Nat.lt_succ_of_le h1)
    simp [h1, readUtf8From, advance, begin, hlt, hb]
  by_cases h2 : n ≤ 2047
  · have e1 : n / 64 % 32 = n / 64 := by omega
    have e : n / 64 * 64 + n % 64 = n := by omega
    rw [if_neg h1, if_pos h2, e1]
    simp only [List.cons_append, List.nil_append, readUtf8From_cons]
    rw [advance, begin_of_two (by omega) (by omega), advance_last (by omega) (by simp) (by simp; omega), e]
    rfl
  by_cases h3 : n ≤ 65535
  · have e1 : n / 4096 % 16 = n / 4096 := by omega
    have e : (n / 4096 * 64 + n / 64 % 64) * 64 + n % 64 = n := by omega
    rw [if_neg h1, if_neg h2, if_pos h3, e1]
    simp only [List.cons_append, List.nil_append, readUtf8From_cons]
    have low : (if n / 4096 = 0 then 0xA0 else 0x80 : UInt8).toNat ≤ n / 64 % 64 + 128 := by
      split
      · show 160 ≤ _
        omega
      · show 128 ≤ _
        omega
    have high : n / 64 % 64 + 128 ≤ (if n / 4096 = 13 then 0x9F else 0xBF : UInt8).toNat := by
      split
      · show _ ≤ 159
        omega
      · show _ ≤ 191
        omega
    rw [advance, begin_of_three (by omega), advance_middle (by omega) low high,
      advance_last (by omega) (by simp) (by simp; omega), e]
    rfl
  · have e1 : n / 262144 % 8 = n / 262144 := by omega
    have e : ((n / 262144 * 64 + n / 4096 % 64) * 64 + n / 64 % 64) * 64 + n % 64 = n := by omega
    rw [if_neg h1, if_neg h2, if_neg h3, e1]
    simp only [List.cons_append, List.nil_append, readUtf8From_cons]
    have low : (if n / 262144 = 0 then 0x90 else 0x80 : UInt8).toNat ≤ n / 4096 % 64 + 128 := by
      split
      · show 144 ≤ _
        omega
      · show 128 ≤ _
        omega
    have high : n / 4096 % 64 + 128 ≤ (if n / 262144 = 4 then 0x8F else 0xBF : UInt8).toNat := by
      split
      · show _ ≤ 143
        omega
      · show _ ≤ 191
        omega
    rw [advance, begin_of_four (by omega), advance_middle (by omega) low high,
      advance_middle (by omega) (by simp) (by simp; omega),
      advance_last (by omega) (by simp) (by simp; omega), e]
    rfl

/-- Well-formed bytes are read as the text they were written from. -/
theorem readUtf8_writeUtf8 (text : List Char) : readUtf8 (writeUtf8 text) = text := by
  unfold readUtf8 writeUtf8
  induction text with
  | nil => rfl
  | cons c text ih => rw [List.flatMap_cons, readUtf8From_utf8EncodeChar, ih]

end CipUnits.Text
