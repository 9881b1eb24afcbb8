import CipUnits.Text.Emoji
import CipUnits.Text.Ligature

/-!
# `CipUnits.Text.Cluster` — how many terminal columns a text takes

A sequence of characters that is drawn as one sign, such as an emoji with a skin tone, a flag or a
ligature, takes the columns of the sign. A text is measured from its last character to its first: what
stands ahead, an emoji, a joiner, a selector, decides what the character before it adds. A character
that merges with nothing adds its own columns.

## Contents
- `Joined` and `Cluster` — the beginning of the text measured so far, as far as it can still merge.
- `Selector` and `Ahead` — a cluster with a request for a style before it.
- `Ahead.add` — what one character adds; `columns` — the columns of a text.
-/

namespace CipUnits.Text

/-- What stands between the place reached and a joiner that an emoji follows. -/
inductive Joined where
  /-- Nothing: the joiner is next. -/
  | direct
  /-- An enclosing keycap. -/
  | keycap
  /-- One regional indicator. -/
  | region
  /-- An even number of regional indicators. -/
  | evenRegions
  /-- An odd number of regional indicators, three or more. -/
  | oddRegions
  /-- The end of a tag, with so many tag letters before it. -/
  | tagLetters (count : Nat)
  /-- Three tag letters and the end of a tag, with so many tag digits before them. -/
  | tagDigits (count : Nat)
deriving DecidableEq, Repr

/-- The characters ahead that the character before them can merge with. -/
inductive Cluster where
  /-- Nothing that merges. -/
  | plain
  /-- An emoji. -/
  | emoji
  /-- A skin tone. -/
  | skinTone
  /-- One regional indicator. -/
  | region
  /-- Two regional indicators or more. -/
  | regions
  /-- A joiner that an emoji follows. -/
  | joined (before : Joined)
  /-- A letter of a script with ligatures. -/
  | ligature (letter : Ligature)
  /-- A Kirat Rai vowel sign e. -/
  | vowelE
  /-- A Kirat Rai vowel sign ai, or the two signs e that spell it. -/
  | vowelAi
deriving DecidableEq, Repr

namespace Cluster

/-- The cluster that one character by itself leaves ahead. -/
def ofChar (c : Char) : Cluster :=
  if isRegional c then region
  else if isSkinTone c then skinTone
  else if isEmoji c then emoji
  else if c.toNat = 0x16D67 then vowelE
  else if c.toNat = 0x16D68 then vowelAi
  else (Ligature.ofChar? c).elim plain ligature

/-- The cluster behind a request that no character took up: a ligature, and nothing else, goes on. -/
def unselected : Cluster → Cluster
  | ligature letter => ligature letter
  | _ => plain

/-- Whether an emoji before the cluster is part of the sign ahead. -/
def absorbsEmoji : Cluster → Bool
  | joined .direct | joined .keycap => true
  | _ => false

end Cluster

/-- What a character before a joined emoji adds, and what then stands ahead. An emoji, a flag and a
    tagged flag become part of the sign. -/
def Joined.merge? (c : Char) : Joined → Option (Int × Cluster)
  | direct =>
      if c.toNat = 0x20E3 then some (0, .joined .keycap)
      else if isRegional c then some (1, .joined .region)
      else if isSkinTone c then some (0, .skinTone)
      else if c.toNat = 0xE007F then some (0, .joined (.tagLetters 0))
      else if isEmoji c then some (0, .emoji)
      else none
  | keycap => none
  | region => if isRegional c then some (-1, .joined .evenRegions) else none
  | evenRegions =>
      if isRegional c then some (3, .joined .oddRegions)
      else if c = '\u200D' then some (0, .joined .direct)
      else none
  | oddRegions =>
      if isRegional c then some (-1, .joined .evenRegions)
      else if c = '\u200D' then some (0, .joined .direct)
      else none
  | tagLetters count =>
      if 0xE0061 ≤ c.toNat && c.toNat ≤ 0xE007A && count < 6 then
        some (0, .joined (.tagLetters (count + 1)))
      else if 0xE0030 ≤ c.toNat && c.toNat ≤ 0xE0039 && count ≤ 4 then
        some (0, .joined (.tagDigits 1))
      else if c.toNat = 0x1F3F4 && 3 ≤ count then some (0, .emoji)
      else none
  | tagDigits count =>
      if 0xE0030 ≤ c.toNat && c.toNat ≤ 0xE0039 && count < 3 then
        some (0, .joined (.tagDigits (count + 1)))
      else if c.toNat = 0x1F3F4 && count = 3 then some (0, .emoji)
      else none

namespace Cluster

/-- What a character adds when it merges with the cluster ahead, and the cluster that is then ahead.
    Without a merger there is no answer. -/
def merge? (c : Char) : Cluster → Option (Int × Cluster)
  | plain => none
  | emoji => if c = '\u200D' then some (0, joined .direct) else none
  | skinTone =>
      if takesSkinTone c then some (0, emoji)
      else if c = '\u200D' then some (0, joined .direct)
      else none
  | region => if isRegional c then some (1, regions) else none
  | regions =>
      if isRegional c then some (1, regions)
      else if c = '\u200D' then some (0, joined .direct)
      else none
  | joined before => before.merge? c
  | ligature letter =>
      if c = '\u200D' && letter != .alef then some (0, ligature letter.join)
      else if letter.ignores c then some (0, ligature letter)
      else (letter.merge? c).map fun (sum, next) => (sum, next.elim plain ligature)
  | vowelE =>
      if c.toNat = 0x16D63 || c.toNat = 0x16D69 then some (0, plain)
      else if c.toNat = 0x16D67 then some (0, vowelAi)
      else if c.toNat = 0x16D68 then some (1, vowelE)
      else none
  | vowelAi => if c.toNat = 0x16D63 then some (0, plain) else none

/-- What a character adds before a cluster, and the cluster that is then ahead. -/
def add (c : Char) (cluster : Cluster) : Int × Cluster :=
  (cluster.merge? c).getD (charColumns c, ofChar c)

end Cluster

/-- The style that a selector requests of the character before it. -/
inductive Selector where
  | emojiStyle
  | textStyle
  | wideQuote
deriving DecidableEq, Repr

/-- The request that a character is. -/
def Selector.ofChar? (c : Char) : Option Selector :=
  if c = '\uFE0F' then some .emojiStyle
  else if c = '\uFE0E' then some .textStyle
  else if c = '\uFE01' then some .wideQuote
  else none

/-- Whether a character is a curly quotation mark, which can be drawn wide. -/
def isCurlyQuote (c : Char) : Bool :=
  c = '\u2018' || c = '\u2019' || c = '\u201C' || c = '\u201D'

/-- The beginning of the text measured so far: a cluster, and the request before it if there is one. -/
structure Ahead where
  cluster : Cluster
  request : Option Selector
deriving DecidableEq, Repr

namespace Ahead

/-- What stands ahead at the end of a text. -/
def atEnd : Ahead := ⟨.plain, none⟩

/-- What stands ahead once a selector is read. Only a request for the emoji style can join the emoji
    before it to the one behind it. -/
def select (cluster : Cluster) (selector : Selector) : Ahead :=
  if selector = .emojiStyle && cluster.absorbsEmoji then ⟨cluster, some selector⟩
  else ⟨cluster.unselected, some selector⟩

/-- The columns that a character adds to the text ahead of it, and what then stands ahead. -/
def add (c : Char) (ahead : Ahead) : Int × Ahead :=
  if ahead.request = some .emojiStyle && startsEmojiStyle c then
    (if ahead.cluster.absorbsEmoji then 0 else 2, ⟨.emoji, none⟩)
  else if c.toNat ≤ 0xA0 then (1, atEnd)
  else
    let cluster := if ahead.request.isSome then ahead.cluster.unselected else ahead.cluster
    match Selector.ofChar? c with
    | some selector => (0, select cluster selector)
    | none =>
        if ahead.request = some .textStyle && startsTextStyle c then (1, atEnd)
        else if ahead.request = some .wideQuote && isCurlyQuote c then (2, atEnd)
        else ((cluster.add c).1, ⟨(cluster.add c).2, none⟩)

end Ahead

/-- The columns of a run of characters, and what stands ahead of the character before it. -/
def measure : List Char → Int × Ahead
  | [] => (0, .atEnd)
  | c :: cs =>
      let (sum, ahead) := measure cs
      let (more, next) := ahead.add c
      (sum + more, next)

/-- The columns of a text. -/
def columns (text : String) : Nat := (measure text.toList).1.toNat

end CipUnits.Text
