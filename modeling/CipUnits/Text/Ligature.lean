import CipUnits.Text.Columns

/-!
# `CipUnits.Text.Ligature` — letters that merge with the letter before them

In several scripts two letters in a row are drawn as one sign, some only when a zero width joiner
stands between them. A text is measured from its end, so a ligature is described by the letters that end
it: the state says which letter stands ahead, and `Ligature.merge?` whether the letter before it
completes or continues the sign.

## Contents
- `Ligature` — the letters ahead that can still merge; `Ligature.ofChar?` — the letter that opens one.
- `Ligature.join`, `Ligature.ignores` — what may stand inside a ligature.
- `Ligature.merge?` — the columns that a merging letter adds, and what then stands ahead.
-/

namespace CipUnits.Text

/-- A letter ahead that can merge with the one before it; `joined` says that a joiner stands before
    it. -/
inductive Ligature where
  /-- An Arabic alef, which makes one sign with a lam. -/
  | alef
  /-- A Hebrew lamed, which makes one sign with an alef and a joiner. -/
  | lamed (joined : Bool)
  /-- A Khmer letter, which a coeng sign makes a subscript. -/
  | khmer
  /-- A Buginese ya, which makes one sign with its vowel sign, a joiner and a second ya. -/
  | ya (joined : Bool)
  /-- A Buginese vowel sign i with a joiner and a ya after it. -/
  | signIYa
  /-- A Tifinagh consonant, which makes one sign with another one and a joiner. -/
  | tifinagh (joined : Bool)
  /-- A Tifinagh consonant joiner with a consonant after it. -/
  | tifinaghJoiner
  /-- A Lisu tone letter that makes one sign with the tone letter before it. -/
  | lisuTone
  /-- An Old Turkic letter orkhon i, which makes one sign with the letter orkhon ec and a joiner. -/
  | orkhonI (joined : Bool)
deriving DecidableEq, Repr

/-- Arabic alefs with and without marks. -/
def alefRanges : Ranges := [
  (0x622, 0x623), (0x625, 0x625), (0x627, 0x627), (0x671, 0x673), (0x675, 0x675), (0x773, 0x774),
  (0x870, 0x882)]

/-- Arabic lams with and without marks. -/
def lamRanges : Ranges := [
  (0x644, 0x644), (0x6B5, 0x6B8), (0x76A, 0x76A), (0x8A6, 0x8A6), (0x8C7, 0x8C7)]

/-- Khmer letters that can be written below another one. -/
def khmerRanges : Ranges := [
  (0x1780, 0x1782), (0x1784, 0x1787), (0x1789, 0x178C), (0x178E, 0x1793), (0x1795, 0x1798),
  (0x179B, 0x179D), (0x17A0, 0x17A0), (0x17A2, 0x17A2), (0x17A7, 0x17A7), (0x17AB, 0x17AC),
  (0x17AF, 0x17AF)]

/-- Tifinagh consonants. -/
def tifinaghRanges : Ranges := [(0x2D31, 0x2D65), (0x2D6F, 0x2D6F)]

/-- Marks that are ignored inside a ligature: they are ignored by default, and extend the letter before
    them. -/
def ignoredMarkRanges : Ranges := [
  (0x34F, 0x34F), (0x17B4, 0x17B5), (0x180B, 0x180D), (0x180F, 0x180F), (0xFE00, 0xFE0F),
  (0xE0100, 0xE01EF)]

/-- Code points without a column that break the joining of Arabic letters. All others without a column
    let it through. -/
def joinBreakRanges : Ranges := [
  (0x605, 0x605), (0x890, 0x891), (0x8E2, 0x8E2), (0x9BE, 0x9BE), (0x9D7, 0x9D7), (0xB3E, 0xB3E),
  (0xB57, 0xB57), (0xBBE, 0xBBE), (0xBD7, 0xBD7), (0xCC0, 0xCC0), (0xCC2, 0xCC2), (0xCC7, 0xCC8),
  (0xCCA, 0xCCB), (0xCD5, 0xCD6), (0xD3E, 0xD3E), (0xD4E, 0xD4E), (0xD57, 0xD57), (0xDCF, 0xDCF),
  (0xDDF, 0xDDF), (0x1160, 0x11FF), (0x1715, 0x1715), (0x1734, 0x1734), (0x180E, 0x180E),
  (0x1B35, 0x1B35), (0x1B3B, 0x1B3B), (0x1B3D, 0x1B3D), (0x1B43, 0x1B44), (0x1BAA, 0x1BAA),
  (0x1BF2, 0x1BF3), (0x200C, 0x200D), (0x2065, 0x2069), (0x302E, 0x302F), (0x3164, 0x3164),
  (0xA8FA, 0xA8FA), (0xA953, 0xA953), (0xA9C0, 0xA9C0), (0xD7B0, 0xD7C6), (0xD7CB, 0xD7FB),
  (0xFFA0, 0xFFA0), (0xFFF0, 0xFFF8), (0x111C0, 0x111C0), (0x111C2, 0x111C3), (0x11235, 0x11235),
  (0x1133E, 0x1133E), (0x1134D, 0x1134D), (0x11357, 0x11357), (0x113B8, 0x113B8), (0x113C2, 0x113C2),
  (0x113C5, 0x113C5), (0x113C7, 0x113C9), (0x113CF, 0x113CF), (0x113D1, 0x113D1), (0x114B0, 0x114B0),
  (0x114BD, 0x114BD), (0x115AF, 0x115AF), (0x116B6, 0x116B6), (0x11930, 0x11930), (0x1193D, 0x1193D),
  (0x1193F, 0x1193F), (0x11941, 0x11941), (0x11A3A, 0x11A3A), (0x11A84, 0x11A89), (0x11D46, 0x11D46),
  (0x11F02, 0x11F02), (0x11F41, 0x11F41), (0x16FF0, 0x16FF1), (0x1D165, 0x1D166), (0x1D16D, 0x1D172),
  (0xE0000, 0xE0000), (0xE0002, 0xE001F), (0xE0080, 0xE00FF), (0xE01F0, 0xE0FFF)]

/-- Whether a character has no column and lets Arabic letters join across it. -/
def isJoinTransparent (c : Char) : Bool := charColumns c = 0 && !joinBreakRanges.has c

namespace Ligature

/-- The ligature that a letter ahead leaves open to the one before it. -/
def ofChar? (c : Char) : Option Ligature :=
  if c.toNat = 0x5DC then some (.lamed false)
  else if alefRanges.has c then some .alef
  else if khmerRanges.has c then some .khmer
  else if c.toNat = 0x1A10 then some (.ya false)
  else if tifinaghRanges.has c then some (.tifinagh false)
  else if c.toNat = 0xA4FC || c.toNat = 0xA4FD then some .lisuTone
  else if c.toNat = 0x10C03 then some (.orkhonI false)
  else none

/-- The ligature with a joiner before it. -/
def join : Ligature → Ligature
  | lamed _ => lamed true
  | ya _ => ya true
  | tifinagh _ => tifinagh true
  | orkhonI _ => orkhonI true
  | other => other

/-- Whether a ligature goes on before a mark as if the mark were not there. An alef has a rule of its
    own, in `merge?`. -/
def ignores (ligature : Ligature) (c : Char) : Bool :=
  ligature != .alef && ignoredMarkRanges.has c

/-- The columns that a letter adds when it merges with the ligature ahead, and the ligature that is then
    ahead. Without a merger there is no answer. A letter written below another one takes back the column
    that was counted for it. -/
def merge? (c : Char) : Ligature → Option (Int × Option Ligature)
  | alef =>
      if lamRanges.has c then some (0, none)
      else if isJoinTransparent c then some (0, some .alef)
      else none
  | lamed joined => if joined && c.toNat = 0x5D0 then some (0, none) else none
  | khmer => if c.toNat = 0x17D2 then some (-1, none) else none
  | ya joined => if joined && c.toNat = 0x1A17 then some (0, some .signIYa) else none
  | signIYa => if c.toNat = 0x1A15 then some (0, none) else none
  | tifinagh joined =>
      if c.toNat = 0x2D7F then some (1, some .tifinaghJoiner)
      else if joined && tifinaghRanges.has c then some (0, none)
      else none
  | tifinaghJoiner => if tifinaghRanges.has c then some (-1, none) else none
  | lisuTone => if 0xA4F8 ≤ c.toNat && c.toNat ≤ 0xA4FB then some (0, none) else none
  | orkhonI joined => if joined && c.toNat = 0x10C32 then some (0, none) else none

end Ligature

end CipUnits.Text
