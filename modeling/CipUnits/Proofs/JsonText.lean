import CipUnits.Json
import CipUnits.Text.Numeral
import Mathlib.InformationTheory.Coding.UniquelyDecodable

/-!
# `CipUnits.Proofs.JsonText` — what the text of a JSON value tells

The text of a truth value, a whole number or a string is read back here, so that no two of them have one
text. For a string this is a matter of its characters one by one: each of them stands in the string as a
word of a code, and since the word can be read without a look at what follows it, the words can be told
apart in a row of them.

Whatever the characters of a string are, no character below U+0020 stands in its text. This is what makes
a text a line.

Decimals are left out. A number that is not finite has no text of its own.

## Contents
- **Codes.** `uniquelyDecodable_of_prefixFree`.
- **Strings.** `readChar?` and `readChar?_stringChar`; `uniquelyDecodable_stringChar`, `stringText_inj`.
- **Whole numbers.** `readInteger` and `readInteger_integerText`; `integerText_inj`.
- **Values.** `Alike`, with `Alike.text_inj` and `Alike.printable`.
-/

namespace CipUnits

open InformationTheory (UniquelyDecodable)

/-! ## Codes -/

/-- A code with no empty word, and with no word in front of another one, can be decoded in one way only. -/
theorem Text.uniquelyDecodable_of_prefixFree {α : Type} {code : Set (List α)} (hempty : [] ∉ code)
    (hcut : ∀ u ∈ code, ∀ v ∈ code, u <+: v → u = v) : UniquelyDecodable code := by
  intro words others hwords hothers hsame
  induction words generalizing others with
  | nil =>
      cases others with
      | nil => rfl
      | cons v others =>
          have hv : v = [] := (List.append_eq_nil_iff.mp hsame.symm).1
          exact absurd (hv ▸ hothers v List.mem_cons_self) hempty
  | cons u words ih =>
      have hu : u ∈ code := hwords u List.mem_cons_self
      cases others with
      | nil =>
          have hnil : u = [] := (List.append_eq_nil_iff.mp hsame).1
          exact absurd (hnil ▸ hu) hempty
      | cons v others =>
          have hv : v ∈ code := hothers v List.mem_cons_self
          rw [List.flatten_cons, List.flatten_cons] at hsame
          -- both words are in front of one text, so one of them is in front of the other
          have hfront : u <+: v ++ others.flatten := hsame ▸ List.prefix_append u words.flatten
          have hboth : u = v := by
            rcases List.prefix_or_prefix_of_prefix hfront (List.prefix_append v others.flatten) with h | h
            · exact hcut u hu v hv h
            · exact (hcut v hv u hu h).symm
          subst hboth
          have hrest : words = others :=
            ih others (fun w hw => hwords w (List.mem_cons_of_mem u hw))
              (fun w hw => hothers w (List.mem_cons_of_mem u hw)) (List.append_cancel_left hsame)
          rw [hrest]

namespace Json

/-! ## Strings -/

/-- The character that a mark behind a backslash stands for. -/
def markedChar? : Char → Option Char
  | '"' => some '"'
  | '\\' => some '\\'
  | 'n' => some '\n'
  | 'r' => some '\r'
  | 't' => some '\t'
  | 'b' => some '\x08'
  | 'f' => some '\x0c'
  | _ => none

/-- Takes one character from the front of what stands between the quotes of a string. -/
def readChar? : List Char → Option (Char × List Char)
  | '\\' :: 'u' :: '0' :: '0' :: high :: low :: rest => do
      let high ← Text.digit? 16 high
      let low ← Text.digit? 16 low
      some (Char.ofNat (high * 16 + low), rest)
  | '\\' :: mark :: rest => (markedChar? mark).map (·, rest)
  | c :: rest => some (c, rest)
  | [] => none

/-- A digit is read back, and is no character below U+0020. -/
theorem hexDigit_spec (n : Nat) :
    Text.digit? 16 (hexDigit n) = some (n % 16) ∧ 0x20 ≤ (hexDigit n).toNat := by
  have hall : ∀ v < 16, Text.digit? 16 (Nat.digitChar v) = some v ∧ 0x20 ≤ (Nat.digitChar v).toNat := by
    decide
  exact hall (n % 16) (Nat.mod_lt n (by decide))

/-- **One character is read back**, whatever stands behind it. -/
theorem readChar?_stringChar (c : Char) (rest : List Char) :
    readChar? (stringChar c ++ rest) = some (c, rest) := by
  unfold stringChar
  split
  -- a character without a mark of its own is written as four digits or stands for itself
  case h_8 _ hbackslash _ _ _ _ _ =>
    split
    · next hlow =>
        have hhigh : c.toNat / 16 % 16 = c.toNat / 16 := Nat.mod_eq_of_lt (by omega)
        have hcode : c.toNat / 16 * 16 + c.toNat % 16 = c.toNat := Nat.div_add_mod' c.toNat 16
        show ((Text.digit? 16 (hexDigit (c.toNat / 16))).bind fun high =>
          (Text.digit? 16 (hexDigit c.toNat)).bind fun low =>
            some (Char.ofNat (high * 16 + low), rest)) = _
        rw [(hexDigit_spec _).1, (hexDigit_spec _).1, hhigh]
        show some (Char.ofNat (c.toNat / 16 * 16 + c.toNat % 16), rest) = _
        rw [hcode, Char.ofNat_toNat]
    · -- the first two cases of the reader want a backslash
      rw [List.singleton_append, readChar?.eq_def]
      split
      · next h => exact absurd (List.cons.inj h).1 hbackslash
      · next h => exact absurd (List.cons.inj h).1 hbackslash
      · next h => rw [(List.cons.inj h).1, (List.cons.inj h).2]
      · next h => cases h
  all_goals rfl

theorem stringChar_injective : Function.Injective stringChar := by
  intro c d h
  have hread := readChar?_stringChar c []
  rw [h, readChar?_stringChar] at hread
  exact (Prod.mk.inj (Option.some.inj hread)).1.symm

/-- The characters of a string can be told apart. -/
theorem uniquelyDecodable_stringChar : UniquelyDecodable (Set.range stringChar) := by
  apply Text.uniquelyDecodable_of_prefixFree
  · rintro ⟨c, hc⟩
    have hread := readChar?_stringChar c []
    rw [hc] at hread
    cases hread
  · -- what the reader takes from the longer word is the character of the shorter one
    rintro _ ⟨c, rfl⟩ _ ⟨d, rfl⟩ ⟨behind, h⟩
    have hread := readChar?_stringChar c behind
    rw [h, ← List.append_nil (stringChar d), readChar?_stringChar] at hread
    rw [(Prod.mk.inj (Option.some.inj hread)).1]

/-- **No two strings have one text.** -/
theorem stringText_inj {s t : String} : stringText s = stringText t ↔ s = t := by
  constructor
  · intro h
    have hinner : (s.toList.map stringChar).flatten = (t.toList.map stringChar).flatten := by
      rw [← List.flatMap_def, ← List.flatMap_def]
      exact List.append_cancel_right (List.cons.inj h).2
    have hword : ∀ u : String, ∀ w ∈ u.toList.map stringChar, w ∈ Set.range stringChar := by
      intro u w hw
      obtain ⟨c, -, rfl⟩ := List.mem_map.mp hw
      exact ⟨c, rfl⟩
    have hwords := uniquelyDecodable_stringChar _ _ (hword s) (hword t) hinner
    exact String.toList_inj.mp ((List.map_inj_right fun _ _ hc => stringChar_injective hc).mp hwords)
  · exact fun h => congrArg stringText h

theorem printable_stringChar (c : Char) : ∀ d ∈ stringChar c, 0x20 ≤ d.toNat := by
  unfold stringChar
  split
  case h_8 =>
    split
    · intro d hd
      simp only [List.mem_cons, List.not_mem_nil, or_false] at hd
      rcases hd with rfl | rfl | rfl | rfl | rfl | rfl
      · decide
      · decide
      · decide
      · decide
      · exact (hexDigit_spec _).2
      · exact (hexDigit_spec _).2
    · next hhigh =>
        intro d hd
        rw [List.mem_singleton.mp hd]
        exact Nat.le_of_not_lt hhigh
  all_goals simp

/-- No character below U+0020 stands in the text of a string. -/
theorem printable_stringText (s : String) : ∀ d ∈ stringText s, 0x20 ≤ d.toNat := by
  intro d hd
  rcases List.mem_append.mp hd with hd | hd
  · rcases List.mem_cons.mp hd with rfl | hd
    · decide
    · obtain ⟨c, -, hd⟩ := List.mem_flatMap.mp hd
      exact printable_stringChar c d hd
  · rw [List.mem_singleton.mp hd]
    decide

/-! ## Whole numbers -/

/-- The whole number of a row of digits with or without a minus sign. -/
def readInteger : List Char → Int
  | '-' :: digits => -(Nat.ofDigitChars 10 digits 0 : Int)
  | digits => Nat.ofDigitChars 10 digits 0

theorem ne_minus_of_mem_toDigits {n : Nat} {c : Char} (h : c ∈ Nat.toDigits 10 n) : c ≠ '-' := by
  rintro rfl
  have hdigit := Nat.isDigit_of_mem_toDigits (by decide) (by decide) h
  cases hdigit

/-- **A whole number is read back.** -/
theorem readInteger_integerText (i : Int) : readInteger (integerText i) = i := by
  unfold integerText
  split
  · next hnegative =>
      show -(Nat.ofDigitChars 10 (Nat.toDigits 10 i.natAbs) 0 : Int) = i
      rw [Nat.ofDigitChars_ten_toDigits]
      omega
  · next hnatural =>
      have hdigits : readInteger (Nat.toDigits 10 i.natAbs)
          = Nat.ofDigitChars 10 (Nat.toDigits 10 i.natAbs) 0 := by
        unfold readInteger
        split
        -- no row of digits begins with a minus sign
        · next h => exact absurd rfl (ne_minus_of_mem_toDigits (h ▸ List.mem_cons_self))
        · rfl
      rw [List.nil_append, hdigits, Nat.ofDigitChars_ten_toDigits]
      omega

/-- **No two whole numbers have one text.** -/
theorem integerText_inj {i j : Int} : integerText i = integerText j ↔ i = j := by
  constructor
  · intro h
    rw [← readInteger_integerText i, h, readInteger_integerText]
  · exact fun h => congrArg integerText h

theorem printable_integerText (i : Int) : ∀ d ∈ integerText i, 0x20 ≤ d.toNat := by
  intro d hd
  rcases List.mem_append.mp hd with hd | hd
  · split at hd
    · rw [List.mem_singleton.mp hd]
      decide
    · cases hd
  · have hdigit := Nat.isDigit_of_mem_toDigits (by decide) (by decide) hd
    have hzero : '0'.val ≤ d.val := of_decide_eq_true (Bool.and_eq_true_iff.mp hdigit).1
    exact Nat.le_trans (by decide) (UInt32.le_iff_toNat_le.mp hzero)

/-! ## Values -/

/-- Two truth values, two whole numbers or two strings. -/
inductive Alike : Json → Json → Prop where
  | bool (a b : Bool) : Alike (.bool a) (.bool b)
  | integer (i j : Int) : Alike (.integer i) (.integer j)
  | string (s t : String) : Alike (.string s) (.string t)

variable {j k : Json}

/-- **Values of one form have one text only if they are equal.** -/
theorem Alike.text_inj (h : Alike j k) : j.text = k.text ↔ j = k := by
  unfold text
  rw [String.ofList_inj]
  cases h with
  | bool a b =>
      rw [Json.bool.injEq]
      revert a b
      decide
  | integer i j =>
      show integerText i = integerText j ↔ _
      rw [integerText_inj, Json.integer.injEq]
  | string s t =>
      show stringText s = stringText t ↔ _
      rw [stringText_inj, Json.string.injEq]

/-- The text of such a value is a line. -/
theorem Alike.printable (h : Alike j k) : ∀ c ∈ j.text.toList, 0x20 ≤ c.toNat := by
  unfold text
  rw [String.toList_ofList]
  cases h with
  | bool a b =>
      have hall : ∀ a : Bool, (Json.bool a).chars.all (fun c => decide (0x20 ≤ c.toNat)) = true := by
        decide
      exact fun c hc => of_decide_eq_true (List.all_eq_true.mp (hall a) c hc)
  | integer i j => exact printable_integerText i
  | string s t => exact printable_stringText s

end Json

end CipUnits
