import CipUnits.Proofs.Acceptance
import Mathlib.Data.List.TakeWhile
import Mathlib.Data.Nat.Digits.Defs

/-!
# `CipUnits.Proofs.Naming` — the texts that name a tag

A tag is written by hand as the name of a recognised type or as a code in base sixteen behind a marker,
with white space around it. The grammar here says so without a word about how a text is read: white space
by its code points, the case of a letter by its place in the alphabet, a code by the value of its digits.

The two ways of writing do not meet, since no name begins with a digit. So a text that begins like a code
is one or is refused, and where names are looked up in turn, no two of them are the same but for case.
The reader of codes is one of numerals, and takes a sign in front of the digits. This is the only way to
write a tag that the grammar does not have.

## Contents
- **Around a text.** `Blank`, `Bare` and `Padded`; `trim_of_padded` and `padded_trim`.
- **Names.** `SameLetter` and `Names`; `ofName?_iff`.
- **Codes.** `Denotes`, digits of a number; `digits?_iff`, and any digits denote one number.
- **Texts.** `Spells` and `Accepts`; `accepts_marked_iff` and `ofText?_iff`.
- `naming_law` — every spelling is understood; `recognition_law` — what any text is taken for, with
  `signed_code_is_read`, a text that spells no tag.
-/

namespace CipUnits

namespace Text

/-! ## Around a text -/

/-- White space and nothing else. -/
def Blank (text : List Char) : Prop := ∀ c ∈ text, c.toNat ∈ HexDump.whiteSpace

instance (text : List Char) : Decidable (Blank text) := List.decidableBAll _ _

/-- No white space at either end. -/
structure Bare (core : List Char) : Prop where
  front : ∀ c ∈ core.head?, c.toNat ∉ HexDump.whiteSpace
  back : ∀ c ∈ core.getLast?, c.toNat ∉ HexDump.whiteSpace

/-- A text is a core with white space around it. -/
def Padded (core text : List Char) : Prop :=
  ∃ before behind, Blank before ∧ Blank behind ∧ text = before ++ core ++ behind

theorem Blank.isBlank {text : List Char} (h : Blank text) : ∀ c ∈ text, isBlank c = true :=
  fun c hc => HexDump.isBlank_iff.mpr (h c hc)

/-- What has no white space in it has none at its ends. -/
theorem bare_of_forall {core : List Char} (h : ∀ c ∈ core, c.toNat ∉ HexDump.whiteSpace) : Bare core :=
  ⟨fun c hc => h c (List.mem_of_mem_head? hc), fun c hc => h c (List.mem_of_mem_getLast? hc)⟩

/-- Nothing is dropped from a text that begins with no white space. -/
theorem dropWhile_isBlank_of_front {text : List Char}
    (h : ∀ c ∈ text.head?, c.toNat ∉ HexDump.whiteSpace) : text.dropWhile isBlank = text := by
  cases text with
  | nil => rfl
  | cons c text =>
      have hc : ¬ isBlank c = true := mt HexDump.isBlank_iff.mp (h c rfl)
      exact List.dropWhile_cons_of_neg hc

/-- **A bare core is what is left when the white space around it is taken off.** -/
theorem trim_of_padded {core text : List Char} (hpadded : Padded core text) (hbare : Bare core) :
    trim text = core := by
  obtain ⟨before, behind, hbefore, hbehind, rfl⟩ := hpadded
  have hfront : (before ++ core ++ behind).dropWhile isBlank = (core ++ behind).dropWhile isBlank := by
    rw [List.append_assoc, List.dropWhile_append_of_pos hbefore.isBlank]
  unfold trim
  rw [hfront]
  by_cases hcore : core = []
  · subst hcore
    have hnone : behind.dropWhile isBlank = [] := List.dropWhile_eq_nil_iff.mpr hbehind.isBlank
    rw [List.nil_append, hnone]
    rfl
  · have hkept : (core ++ behind).dropWhile isBlank = core ++ behind := by
      apply dropWhile_isBlank_of_front
      rw [List.head?_append_of_ne_nil _ hcore]
      exact hbare.front
    have hback : core.reverse.dropWhile isBlank = core.reverse := by
      apply dropWhile_isBlank_of_front
      rw [List.head?_reverse]
      exact hbare.back
    have hreverse : ∀ c ∈ behind.reverse, isBlank c = true :=
      fun c hc => hbehind.isBlank c (List.mem_reverse.mp hc)
    rw [hkept, List.reverse_append, List.dropWhile_append_of_pos hreverse, hback, List.reverse_reverse]

theorem not_mem_whiteSpace_of_dropWhile {text : List Char} :
    ∀ c ∈ (text.dropWhile isBlank).head?, c.toNat ∉ HexDump.whiteSpace := by
  intro c hc
  have hnot := List.head?_dropWhile_not isBlank text
  rw [Option.mem_def.mp hc] at hnot
  exact mt HexDump.isBlank_iff.mpr (ne_true_of_eq_false hnot)

theorem blank_takeWhile (text : List Char) : Blank (text.takeWhile isBlank) :=
  fun _ hc => HexDump.isBlank_iff.mp (List.mem_takeWhile_imp hc)

/-- Every text is a bare core with white space around it. -/
theorem padded_trim (text : List Char) : Padded (trim text) text ∧ Bare (trim text) := by
  have hback : (trim text) ++ ((text.dropWhile isBlank).reverse.takeWhile isBlank).reverse
      = text.dropWhile isBlank := by
    rw [trim, ← List.reverse_append, List.takeWhile_append_dropWhile, List.reverse_reverse]
  have hbehind : Blank ((text.dropWhile isBlank).reverse.takeWhile isBlank).reverse :=
    fun c hc => blank_takeWhile _ c (List.mem_reverse.mp hc)
  refine ⟨⟨_, _, blank_takeWhile text, hbehind, ?_⟩, ?_, ?_⟩
  · rw [List.append_assoc, hback, List.takeWhile_append_dropWhile]
  · intro c hc
    have hne : trim text ≠ [] := by
      intro hnil
      rw [hnil] at hc
      cases hc
    refine @not_mem_whiteSpace_of_dropWhile text c ?_
    rw [← hback, List.head?_append_of_ne_nil _ hne]
    exact hc
  · intro c hc
    rw [trim, List.getLast?_reverse] at hc
    exact not_mem_whiteSpace_of_dropWhile c hc

/-! ## Names -/

/-- A character is another one, or both are the letter at one place of the alphabet, in either case. -/
def SameLetter (c d : Char) : Prop :=
  c = d ∨ ∃ place < 26, c.toNat ∈ [65 + place, 97 + place] ∧ d.toNat ∈ [65 + place, 97 + place]

theorem toNat_toLower (c : Char) :
    c.toLower.toNat = if 65 ≤ c.toNat ∧ c.toNat ≤ 90 then c.toNat + 32 else c.toNat := by
  have hrange : (c.val ≥ 'A'.val ∧ c.val ≤ 'Z'.val) ↔ 65 ≤ c.toNat ∧ c.toNat ≤ 90 := Iff.rfl
  unfold Char.toLower
  split
  · next hupper =>
      have hdistance : ('a'.val - 'A'.val).toNat = 32 := by decide
      have hc := hrange.mp hupper
      rw [if_pos hc]
      show (c.val + ('a'.val - 'A'.val)).toNat = c.toNat + 32
      rw [UInt32.toNat_add, hdistance]
      show (c.toNat + 32) % 2 ^ 32 = c.toNat + 32
      omega
  · next hother => rw [if_neg (mt hrange.mpr hother)]

/-- Characters are the same letter exactly if they are the same in lower case. -/
theorem sameLetter_iff {c d : Char} : SameLetter c d ↔ c.toLower = d.toLower := by
  rw [← Char.toNat_inj, toNat_toLower, toNat_toLower]
  constructor
  · rintro (rfl | ⟨place, hplace, hc, hd⟩)
    · rfl
    · simp only [List.mem_cons, List.not_mem_nil, or_false] at hc hd
      split <;> split <;> omega
  · intro h
    by_cases hsame : c.toNat = d.toNat
    · exact .inl (Char.toNat_inj.mp hsame)
    · -- the one in capitals tells the place
      refine .inr ⟨min c.toNat d.toNat - 65, ?_, ?_, ?_⟩
      · split at h <;> split at h <;> omega
      · simp only [List.mem_cons, List.not_mem_nil, or_false]
        split at h <;> split at h <;> omega
      · simp only [List.mem_cons, List.not_mem_nil, or_false]
        split at h <;> split at h <;> omega

theorem sameIgnoringCase_eq_forall₂ {a b : List Char} :
    sameIgnoringCase a b = true ↔ List.Forall₂ SameLetter a b := by
  have hrelation : SameLetter = fun c d : Char => c.toLower = d.toLower := by
    funext c d
    exact propext sameLetter_iff
  rw [sameIgnoringCase_iff, hrelation, ← List.forall₂_map_left_iff (R := fun c d => c = Char.toLower d),
    ← List.forall₂_map_right_iff (R := Eq), List.forall₂_eq_eq_eq]

/-- White space is no letter. -/
theorem SameLetter.not_mem_whiteSpace {c d : Char} (h : SameLetter c d)
    (hd : d.toNat ∉ HexDump.whiteSpace) : c.toNat ∉ HexDump.whiteSpace := by
  rcases h with rfl | ⟨place, hplace, hc, -⟩
  · exact hd
  · have hnone : ∀ place < 26, 65 + place ∉ HexDump.whiteSpace ∧ 97 + place ∉ HexDump.whiteSpace := by
      decide
    obtain ⟨hupper, hlower⟩ := hnone place hplace
    rcases List.mem_pair.mp hc with hc | hc
    · rwa [hc]
    · rwa [hc]

end Text

namespace Tag

/-- A text is the name of a recognised tag, in any case. -/
def Names (core : List Char) (tag : Tag) : Prop :=
  tag.isKnown = true ∧ List.Forall₂ Text.SameLetter core tag.name.toList

theorem mem_all_iff {tag : Tag} : tag ∈ all ↔ tag.isKnown = true := by
  obtain ⟨code⟩ := tag
  simp [all, ofWireType, isKnown, wireType?]

/-- No two names are the same but for case. -/
theorem eq_of_sameIgnoringCase :
    ∀ a ∈ all, ∀ b ∈ all, Text.sameIgnoringCase a.name.toList b.name.toList = true → a = b := by
  decide

/-- **Names are found by what they are**, whichever stands first in the table. -/
theorem ofName?_iff {core : List Char} {tag : Tag} : ofName? core = some tag ↔ Names core tag := by
  have hsame : ∀ {tag : Tag}, Text.sameIgnoringCase tag.name.toList core = true
      ↔ List.Forall₂ Text.SameLetter core tag.name.toList := by
    intro tag
    rw [← Text.sameIgnoringCase_eq_forall₂, Text.sameIgnoringCase_iff, Text.sameIgnoringCase_iff, eq_comm]
  have hmatches : ∀ {tag : Tag}, ofName? core = some tag
      → Text.sameIgnoringCase tag.name.toList core = true := by
    intro tag h
    exact List.find?_some (p := fun tag : Tag => Text.sameIgnoringCase tag.name.toList core) h
  constructor
  · intro h
    exact ⟨mem_all_iff.mp (List.mem_of_find?_eq_some h), hsame.mp (hmatches h)⟩
  · rintro ⟨hknown, hname⟩
    have htag := mem_all_iff.mpr hknown
    have hfound : (ofName? core).isSome = true := List.find?_isSome.mpr ⟨tag, htag, hsame.mpr hname⟩
    obtain ⟨found, hfound⟩ := Option.isSome_iff_exists.mp hfound
    -- the name found is the core but for case, and so is the name of the tag
    have hcore := Text.sameIgnoringCase_iff.mp (hmatches hfound)
    have hboth : Text.sameIgnoringCase found.name.toList tag.name.toList = true :=
      Text.sameIgnoringCase_iff.mpr (hcore.trans (Text.sameIgnoringCase_iff.mp (hsame.mpr hname)).symm)
    rw [hfound, eq_of_sameIgnoringCase found (List.mem_of_find?_eq_some hfound) tag htag hboth]

/-- No name begins with a digit, nor has white space in it. -/
theorem name_spec : ∀ tag ∈ all,
    tag.name.toList.head? ≠ some '0' ∧ tag.name.toList.any Text.isBlank = false := by
  decide

end Tag

/-! ## Codes -/

namespace Text

open HexDump (IsDigitOf)

/-- Digits denote a number in base sixteen, the highest first. There may be any number of zeros in front. -/
def Denotes (digits : List Char) (n : Nat) : Prop :=
  ∃ values, List.Forall₂ (fun value c => value < 16 ∧ IsDigitOf value c) values digits
    ∧ Nat.ofDigits 16 values.reverse = n

theorem digit?_iff {value : Nat} {c : Char} :
    digit? 16 c = some value ↔ value < 16 ∧ IsDigitOf value c :=
  ⟨HexDump.isDigitOf_of_digit?, fun h => (HexDump.digit_of_isDigitOf h.1 h.2).value⟩

/-- A digit of base sixteen, a letter in either case. -/
def IsHexDigit (c : Char) : Prop := ∃ value < 16, IsDigitOf value c

theorem isHexDigit_iff {c : Char} : IsHexDigit c ↔ (digit? 16 c).isSome = true := by
  rw [Option.isSome_iff_exists, IsHexDigit]
  exact exists_congr fun value => digit?_iff.symm

instance (c : Char) : Decidable (IsHexDigit c) := decidable_of_iff' _ isHexDigit_iff

/-- By the digits, not by all characters there are. -/
instance (digits : List Char) : Decidable (∀ c ∈ digits, IsHexDigit c) := List.decidableBAll _ _

theorem digits?_iff {digits : List Char} {higher n : Nat} :
    digits? 16 higher digits = some n
      ↔ ∃ values, List.Forall₂ (fun value c => value < 16 ∧ IsDigitOf value c) values digits
          ∧ higher * 16 ^ digits.length + Nat.ofDigits 16 values.reverse = n := by
  induction digits generalizing higher with
  | nil => simp [digits?]
  | cons c digits ih =>
      have hvalue : ∀ value (values : List Nat),
          Nat.ofDigits 16 (value :: values).reverse
            = Nat.ofDigits 16 values.reverse + 16 ^ values.length * value := by
        intro value values
        rw [List.reverse_cons, Nat.ofDigits_append, List.length_reverse, Nat.ofDigits_singleton]
      rw [digits?, Option.bind_eq_bind, Option.bind_eq_some_iff]
      constructor
      · rintro ⟨value, hc, hlater⟩
        obtain ⟨values, hvalues, hsum⟩ := ih.mp hlater
        refine ⟨value :: values, .cons (digit?_iff.mp hc) hvalues, ?_⟩
        rw [hvalue, hvalues.length_eq, ← hsum, List.length_cons]
        ring
      · rintro ⟨_, hvalues, hsum⟩
        cases hvalues with
        | @cons value _ values _ hc hvalues =>
            refine ⟨value, digit?_iff.mpr hc, ih.mpr ⟨values, hvalues, ?_⟩⟩
            rw [hvalue, hvalues.length_eq, List.length_cons] at hsum
            rw [← hsum]
            ring

/-- Digits are read as the number they denote. -/
theorem denotes_iff {digits : List Char} {n : Nat} : Denotes digits n ↔ digits? 16 0 digits = some n := by
  rw [digits?_iff, Nat.zero_mul]
  simp only [Nat.zero_add]
  rfl

/-- No digits denote two numbers. -/
theorem Denotes.unique {digits : List Char} {m n : Nat} (hm : Denotes digits m) (hn : Denotes digits n) :
    m = n := Option.some.inj ((denotes_iff.mp hm).symm.trans (denotes_iff.mp hn))

/-- Any row of digits denotes a number. -/
theorem exists_denotes {digits : List Char} (h : ∀ c ∈ digits, IsHexDigit c) :
    ∃ n, Denotes digits n := by
  have hvalues : ∃ values, List.Forall₂ (fun value c => value < 16 ∧ IsDigitOf value c) values digits := by
    induction digits with
    | nil => exact ⟨[], .nil⟩
    | cons c digits ih =>
        obtain ⟨⟨value, hc⟩, hdigits⟩ := List.forall_mem_cons.mp h
        obtain ⟨values, hvalues⟩ := ih hdigits
        exact ⟨value :: values, .cons hc hvalues⟩
  obtain ⟨values, hvalues⟩ := hvalues
  exact ⟨_, values, hvalues, rfl⟩

/-- A character of digits is no sign, and no white space. -/
theorem Denotes.digit {digits : List Char} {n : Nat} (h : Denotes digits n) :
    ∀ c ∈ digits, c ≠ '+' ∧ c.toNat ∉ HexDump.whiteSpace := by
  obtain ⟨values, hvalues, -⟩ := h
  induction hvalues with
  | nil => exact List.forall_mem_nil _
  | @cons value c _ _ hc _ ih =>
      have hdigit := HexDump.digit_of_isDigitOf hc.1 hc.2
      have hblank : ¬ isBlank c = true := by
        intro hblank
        have hseparator := hdigit.separator
        simp [HexDump.isSeparator, hblank] at hseparator
      exact List.forall_mem_cons.mpr ⟨⟨hdigit.sign, mt HexDump.isBlank_iff.mpr hblank⟩, ih⟩

/-- A numeral is some digits, with a sign in front of them or none. -/
theorem readNumeral?_iff {largest n : Nat} {text : List Char} :
    readNumeral? 16 largest text = some n
      ↔ n ≤ largest ∧ ∃ sign ∈ [[], ['+']], ∃ digits,
          text = sign ++ digits ∧ digits ≠ [] ∧ Denotes digits n := by
  unfold readNumeral?
  split
  · next rest =>
      rw [Option.ite_none_left_eq_some, Option.filter_eq_some_iff, ← denotes_iff, List.isEmpty_iff]
      constructor
      · rintro ⟨hsome, hdigits, hbound⟩
        exact ⟨of_decide_eq_true hbound, ['+'], by decide, rest, rfl, hsome, hdigits⟩
      · rintro ⟨hbound, sign, hsign, digits, htext, hsome, hdigits⟩
        rcases List.mem_pair.mp hsign with rfl | rfl
        · obtain rfl : '+' :: rest = digits := htext
          exact absurd rfl (hdigits.digit '+' List.mem_cons_self).1
        · obtain rfl : rest = digits := (List.cons.inj htext).2
          exact ⟨hsome, hdigits, decide_eq_true hbound⟩
  · next hplain =>
      rw [Option.ite_none_left_eq_some, Option.filter_eq_some_iff, ← denotes_iff, List.isEmpty_iff]
      constructor
      · rintro ⟨hsome, hdigits, hbound⟩
        exact ⟨of_decide_eq_true hbound, [], by decide, text, rfl, hsome, hdigits⟩
      · rintro ⟨hbound, sign, hsign, digits, rfl, hsome, hdigits⟩
        rcases List.mem_pair.mp hsign with rfl | rfl
        · exact ⟨hsome, hdigits, decide_eq_true hbound⟩
        · exact absurd rfl (hplain digits)

theorem afterHexMarker?_iff {text rest : List Char} :
    afterHexMarker? text = some rest ↔ ∃ marker ∈ [['0', 'x'], ['0', 'X']], text = marker ++ rest := by
  constructor
  · intro h
    unfold afterHexMarker? at h
    split at h
    · obtain rfl := Option.some.inj h
      exact ⟨['0', 'x'], by decide, rfl⟩
    · obtain rfl := Option.some.inj h
      exact ⟨['0', 'X'], by decide, rfl⟩
    · cases h
  · rintro ⟨marker, hmarker, rfl⟩
    rcases List.mem_pair.mp hmarker with rfl | rfl <;> rfl

end Text

/-! ## Texts -/

namespace Tag

open Text

/-- A text without white space around it spells a tag: by the name, in any case, or by the digits of the
    code behind a marker. -/
inductive Spells : (core : List Char) → Tag → Prop where
  | name {core : List Char} {tag : Tag} (h : Names core tag) : Spells core tag
  | code {marker digits : List Char} {tag : Tag} (hmarker : marker ∈ [['0', 'x'], ['0', 'X']])
      (hsome : digits ≠ []) (hdigits : Denotes digits tag.code.toNat) : Spells (marker ++ digits) tag

/-- What is taken for a tag: its name, or its code, with a sign in front of the digits or none. -/
inductive Accepts : (core : List Char) → Tag → Prop where
  | name {core : List Char} {tag : Tag} (h : Names core tag) : Accepts core tag
  | code {marker sign digits : List Char} {tag : Tag} (hmarker : marker ∈ [['0', 'x'], ['0', 'X']])
      (hsign : sign ∈ [[], ['+']]) (hsome : digits ≠ []) (hdigits : Denotes digits tag.code.toNat) :
      Accepts (marker ++ (sign ++ digits)) tag

theorem Spells.accepts {core : List Char} {tag : Tag} (h : Spells core tag) : Accepts core tag := by
  have hnone : [] ∈ [[], ['+']] := by decide
  cases h with
  | name h => exact .name h
  | code hmarker hsome hdigits => exact .code hmarker hnone hsome hdigits

/-- Without a sign, nothing is accepted but what spells a tag. -/
theorem Accepts.spells {core : List Char} {tag : Tag} (h : Accepts core tag) (hunsigned : '+' ∉ core) :
    Spells core tag := by
  cases h with
  | name h => exact .name h
  | @code marker sign digits _ hmarker hsign hsome hdigits =>
      rcases List.mem_pair.mp hsign with rfl | rfl
      · exact .code hmarker hsome hdigits
      · exact absurd (List.mem_append_right marker List.mem_cons_self) hunsigned

/-- What begins with a digit is no name. -/
theorem Names.head?_ne {core : List Char} {tag : Tag} (h : Names core tag) : core.head? ≠ some '0' := by
  obtain ⟨hknown, hname⟩ := h
  have htag := (name_spec tag (mem_all_iff.mpr hknown)).1
  generalize tag.name.toList = name at hname htag
  cases hname with
  | nil => exact nofun
  | @cons c d _ _ hsame _ =>
      intro hc
      obtain rfl : c = '0' := Option.some.inj hc
      -- a digit is no letter, so that the name would begin with it
      rcases hsame with rfl | ⟨place, -, hc, -⟩
      · exact htag rfl
      · have hzero : '0'.toNat = 48 := rfl
        rcases List.mem_pair.mp hc with hc | hc <;> omega

theorem head?_of_marker {marker : List Char} (hmarker : marker ∈ [['0', 'x'], ['0', 'X']])
    (rest : List Char) : (marker ++ rest).head? = some '0' := by
  rcases List.mem_pair.mp hmarker with rfl | rfl <;> rfl

/-- What begins with a marker is accepted for its code, and never for a name. -/
theorem accepts_marked_iff {core rest : List Char} {tag : Tag}
    (hmarked : afterHexMarker? core = some rest) :
    Accepts core tag ↔ ∃ sign ∈ [[], ['+']], ∃ digits,
      rest = sign ++ digits ∧ digits ≠ [] ∧ Denotes digits tag.code.toNat := by
  constructor
  · intro h
    cases h with
    | name h =>
        obtain ⟨marker, hmarker, rfl⟩ := afterHexMarker?_iff.mp hmarked
        exact absurd (head?_of_marker hmarker rest) h.head?_ne
    | @code marker sign digits _ hmarker hsign hsome hdigits =>
        rw [afterHexMarker?_iff.mpr ⟨_, hmarker, rfl⟩] at hmarked
        exact ⟨sign, hsign, digits, (Option.some.inj hmarked).symm, hsome, hdigits⟩
  · rintro ⟨sign, hsign, digits, rfl, hsome, hdigits⟩
    obtain ⟨marker, hmarker, rfl⟩ := afterHexMarker?_iff.mp hmarked
    exact .code hmarker hsign hsome hdigits

/-- A code of a byte is read as the number of the byte. -/
theorem map_readNumeral?_iff {digits : List Char} {tag : Tag} :
    (readNumeral? 16 255 digits).map (fun code => (⟨UInt8.ofNat code⟩ : Tag)) = some tag
      ↔ readNumeral? 16 255 digits = some tag.code.toNat := by
  constructor
  · intro h
    obtain ⟨code, hcode, rfl⟩ := Option.map_eq_some_iff.mp h
    have hbound : code ≤ 255 := (readNumeral?_spec hcode).1
    rw [hcode, UInt8.toNat_ofNat', Nat.mod_eq_of_lt (Nat.lt_succ_of_le hbound)]
  · intro h
    rw [h, Option.map_some, UInt8.ofNat_toNat]

/-- **A text is taken for a tag exactly if its core is accepted for it.** -/
theorem ofText?_iff {core text : List Char} {tag : Tag} (htrim : trim text = core) :
    ofText? text = some tag ↔ Accepts core tag := by
  unfold ofText?
  rw [htrim]
  dsimp only
  cases hmarked : afterHexMarker? core with
  | none =>
      dsimp only
      rw [ofName?_iff]
      constructor
      · exact .name
      · intro h
        cases h with
        | name h => exact h
        | code hmarker =>
            rw [afterHexMarker?_iff.mpr ⟨_, hmarker, rfl⟩] at hmarked
            cases hmarked
  | some rest =>
      dsimp only
      rw [map_readNumeral?_iff, readNumeral?_iff, accepts_marked_iff hmarked]
      exact and_iff_right (Nat.le_of_lt_succ tag.code.toNat_lt)

theorem parse_iff {core : List Char} {text : String} {tag : Tag} (htrim : trim text.toList = core) :
    parse text = .ok tag ↔ Accepts core tag := by
  rw [← ofText?_iff htrim, parse]
  cases ofText? text.toList <;> simp

/-- What is accepted for no tag is refused, with the text as it was given. -/
theorem parse_of_not_accepts {core : List Char} {text : String} (htrim : trim text.toList = core)
    (h : ∀ tag, ¬ Accepts core tag) : parse text = .error ⟨text⟩ := by
  cases hparse : ofText? text.toList with
  | none => rw [parse, hparse]
  | some tag => exact absurd ((ofText?_iff htrim).mp hparse) (h tag)

/-! ## The laws -/

/-- A name has no white space in it, in whatever case it is. -/
theorem Names.bare {core : List Char} {tag : Tag} (h : Names core tag) : Bare core := by
  obtain ⟨hknown, hname⟩ := h
  have htag := List.any_eq_false.mp (name_spec tag (mem_all_iff.mpr hknown)).2
  refine bare_of_forall ?_
  generalize tag.name.toList = name at hname htag
  induction hname with
  | nil => exact List.forall_mem_nil _
  | cons hsame _ ih =>
      obtain ⟨hd, hlater⟩ := List.forall_mem_cons.mp htag
      exact List.forall_mem_cons.mpr ⟨hsame.not_mem_whiteSpace (mt HexDump.isBlank_iff.mpr hd), ih hlater⟩

/-- A code has no white space in it. -/
theorem bare_of_denotes {marker digits : List Char} {n : Nat}
    (hmarker : marker ∈ [['0', 'x'], ['0', 'X']]) (hdigits : Denotes digits n) : Bare (marker ++ digits) := by
  have hmarks : ∀ marker ∈ [['0', 'x'], ['0', 'X']], marker.all (fun c => !isBlank c) = true := by decide
  refine bare_of_forall ?_
  intro c hc
  rcases List.mem_append.mp hc with hc | hc
  · have hplain := List.all_eq_true.mp (hmarks marker hmarker) c hc
    exact mt HexDump.isBlank_iff.mpr (by simpa using hplain)
  · exact (hdigits.digit c hc).2

/-- Of digits behind a marker, the tag with their number for a code is accepted, and no other. -/
theorem accepts_code_iff {marker digits : List Char} {n : Nat} {tag : Tag}
    (hmarker : marker ∈ [['0', 'x'], ['0', 'X']]) (hdigits : Denotes digits n) :
    Accepts (marker ++ digits) tag ↔ digits ≠ [] ∧ tag.code.toNat = n := by
  have hmarked : afterHexMarker? (marker ++ digits) = some digits :=
    afterHexMarker?_iff.mpr ⟨marker, hmarker, rfl⟩
  rw [accepts_marked_iff hmarked]
  constructor
  · rintro ⟨sign, hsign, later, rfl, hsome, hlater⟩
    rcases List.mem_pair.mp hsign with rfl | rfl
    · exact ⟨hsome, hlater.unique hdigits⟩
    · exact absurd rfl (hdigits.digit '+' List.mem_cons_self).1
  · rintro ⟨hsome, rfl⟩
    exact ⟨[], by decide, digits, rfl, hsome, hdigits⟩

/-- **Spellings are understood.** With any white space around it, the name of a recognised tag stands for
    the tag in whatever case it is, and digits behind a marker stand for the tag with their number for a
    code, in any case and with any number of zeros in front. A number that is no byte, a marker without
    digits and what is neither a name nor begins with a marker are refused, with the text as it was
    given. -/
theorem naming_law (text : String) (core : List Char) (hpadded : Padded core text.toList) :
    (∀ tag : Tag, tag.isKnown = true → List.Forall₂ SameLetter core tag.name.toList →
        parse text = .ok tag)
      ∧ (∀ marker ∈ [['0', 'x'], ['0', 'X']], ∀ digits, core = marker ++ digits →
          (digits = [] → parse text = .error ⟨text⟩)
            ∧ (digits ≠ [] → (∀ c ∈ digits, IsHexDigit c) →
                ∃ n, Denotes digits n ∧ (∀ m, Denotes digits m → m = n)
                  ∧ (n ≤ 255 → parse text = .ok ⟨UInt8.ofNat n⟩)
                  ∧ (255 < n → parse text = .error ⟨text⟩)))
      ∧ (Bare core → (∀ tag : Tag, tag.isKnown = true → ¬ List.Forall₂ SameLetter core tag.name.toList) →
          (∀ marker ∈ [['0', 'x'], ['0', 'X']], ¬ marker <+: core) → parse text = .error ⟨text⟩) := by
  refine ⟨?_, ?_, ?_⟩
  · intro tag hknown hname
    have hnames : Names core tag := ⟨hknown, hname⟩
    exact (parse_iff (trim_of_padded hpadded hnames.bare)).mpr (.name hnames)
  · rintro marker hmarker digits rfl
    constructor
    · rintro rfl
      have hempty : Denotes [] 0 := ⟨[], .nil, rfl⟩
      refine parse_of_not_accepts (trim_of_padded hpadded (bare_of_denotes hmarker hempty)) fun tag h => ?_
      exact ((accepts_code_iff hmarker hempty).mp h).1 rfl
    · intro hsome hall
      obtain ⟨n, hdigits⟩ := exists_denotes hall
      have htrim := trim_of_padded hpadded (bare_of_denotes hmarker hdigits)
      refine ⟨n, hdigits, fun m hm => hm.unique hdigits, ?_, ?_⟩
      · intro hbyte
        have hcode : (UInt8.ofNat n).toNat = n := by
          rw [UInt8.toNat_ofNat', Nat.mod_eq_of_lt (Nat.lt_succ_of_le hbyte)]
        exact (parse_iff htrim).mpr ((accepts_code_iff hmarker hdigits).mpr ⟨hsome, hcode⟩)
      · intro hwide
        refine parse_of_not_accepts htrim fun tag h => ?_
        have hcode := ((accepts_code_iff hmarker hdigits).mp h).2
        exact Nat.not_lt.mpr (Nat.le_of_lt_succ tag.code.toNat_lt) (hcode ▸ hwide)
  · intro hbare hnone hunmarked
    refine parse_of_not_accepts (trim_of_padded hpadded hbare) fun tag h => ?_
    cases h with
    | name h => exact hnone tag h.1 h.2
    | code hmarker => exact hunmarked _ hmarker (List.prefix_append _ _)

/-- A name in mixed case between an em space and a line feed, a code with a zero in front of its digits,
    and a number that is no byte. -/
theorem naming_law_of_three_texts :
    Padded "dInT".toList "\u2003dInT\n".toList ∧ parse "\u2003dInT\n" = .ok ⟨0xC4⟩
      ∧ Padded "0X0c4".toList "0X0c4 ".toList ∧ parse "0X0c4 " = .ok ⟨0xC4⟩
      ∧ Padded "0x100".toList "\t0x100".toList ∧ parse "\t0x100" = .error ⟨"\t0x100"⟩ := by
  have hname : Padded "dInT".toList "\u2003dInT\n".toList :=
    ⟨['\u2003'], ['\n'], by decide, by decide, by decide⟩
  have hcode : Padded "0X0c4".toList "0X0c4 ".toList := ⟨[], [' '], by decide, by decide, by decide⟩
  have hwide : Padded "0x100".toList "\t0x100".toList := ⟨['\t'], [], by decide, by decide, by decide⟩
  refine ⟨hname, ?_, hcode, ?_, hwide, ?_⟩
  · have hsame : List.Forall₂ SameLetter "dInT".toList (⟨0xC4⟩ : Tag).name.toList :=
      sameIgnoringCase_eq_forall₂.mp (by decide)
    exact (naming_law "\u2003dInT\n" _ hname).1 ⟨0xC4⟩ (by decide) hsame
  · obtain ⟨n, -, hunique, hbyte, -⟩ :=
      ((naming_law "0X0c4 " _ hcode).2.1 ['0', 'X'] (by decide) ['0', 'c', '4'] (by decide)).2
        (by decide) (by decide)
    obtain rfl : 0xC4 = n := hunique _ (denotes_iff.mpr (by decide))
    exact hbyte (by decide)
  · obtain ⟨n, -, hunique, -, hrefused⟩ :=
      ((naming_law "\t0x100" _ hwide).2.1 ['0', 'x'] (by decide) ['1', '0', '0'] (by decide)).2
        (by decide) (by decide)
    obtain rfl : 0x100 = n := hunique _ (denotes_iff.mpr (by decide))
    exact hrefused (by decide)

/-- **What is taken for a tag.** Every text has one core without white space at its ends, and is taken for
    a tag exactly if the core is accepted for it: if it is the name of a recognised tag, in any case, or a
    marker and digits that denote the code, with a sign between them or none. So without a sign in it,
    nothing is taken for a tag but what spells it. A text that is taken for none is refused as it is. -/
theorem recognition_law (text : String) :
    ∃ core, Padded core text.toList ∧ Bare core
      ∧ (∀ other, Padded other text.toList → Bare other → other = core)
      ∧ (∀ tag, parse text = .ok tag ↔ Accepts core tag)
      ∧ ('+' ∉ core → ∀ tag, parse text = .ok tag ↔ Spells core tag)
      ∧ ((∀ tag, ¬ Accepts core tag) → parse text = .error ⟨text⟩) := by
  obtain ⟨hpadded, hbare⟩ := padded_trim text.toList
  refine ⟨trim text.toList, hpadded, hbare, ?_, fun tag => parse_iff rfl, ?_, parse_of_not_accepts rfl⟩
  · intro other hother hbareOther
    exact (trim_of_padded hother hbareOther).symm
  · intro hunsigned tag
    exact (parse_iff rfl).trans ⟨fun h => h.spells hunsigned, Spells.accepts⟩

/-- A sign is taken for a part of a code: the text is read as a tag that it does not spell. -/
theorem signed_code_is_read :
    parse "0x+c4" = .ok ⟨0xC4⟩
      ∧ ∀ core, Padded core "0x+c4".toList → Bare core → ∀ tag, ¬ Spells core tag := by
  refine ⟨by decide, ?_⟩
  rintro core hpadded hbare tag h
  have hcore : core = "0x+c4".toList := (trim_of_padded hpadded hbare).symm.trans (by decide)
  cases h with
  | name h =>
      have hhead : core.head? = some '0' := by
        rw [hcore]
        decide
      exact h.head?_ne hhead
  | @code marker digits _ hmarker _ hdigits =>
      have hmarked := afterHexMarker?_iff.mpr ⟨marker, hmarker, hcore.symm⟩
      obtain rfl : ['+', 'c', '4'] = digits := by simpa [afterHexMarker?] using hmarked
      exact (hdigits.digit '+' List.mem_cons_self).1 rfl

end Tag

end CipUnits
