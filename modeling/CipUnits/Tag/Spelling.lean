import CipUnits.Tag.Basic
import CipUnits.Text.Blank
import CipUnits.Text.Caseless
import CipUnits.Text.Quoted

/-!
# `CipUnits.Tag.Spelling` — tags written by hand

A tag is written as the name of a recognised type, in any case, or as a hexadecimal code after `0x`,
with any white space around it. A text that starts as a code is never taken for a name.

## Contents
- `Tag.ofName?`, `Tag.ofText?` — the two spellings, and both.
- `Tag.parse` — with the cause when there is no such tag.
-/

namespace CipUnits

/-- A text that is not a tag, as it was given. -/
structure UnknownTag where
  text : String
deriving DecidableEq, Repr

/-- The message that shows the text. -/
def UnknownTag.message (e : UnknownTag) : String := "unknown CIP type tag: " ++ Text.quoted e.text

namespace Tag

/-- The recognised tag of a name, whatever the case of its letters. -/
def ofName? (name : List Char) : Option Tag :=
  all.find? fun tag => Text.sameIgnoringCase tag.name.toList name

/-- The tag a text spells, by code or by name. -/
def ofText? (text : List Char) : Option Tag :=
  let text := Text.trim text
  match Text.afterHexMarker? text with
  | some digits => (Text.readNumeral? 16 255 digits).map fun code => ⟨UInt8.ofNat code⟩
  | none => ofName? text

/-- The tag a text spells, or the text itself as the cause of refusal. -/
def parse (text : String) : Except UnknownTag Tag :=
  match ofText? text.toList with
  | some tag => .ok tag
  | none => .error ⟨text⟩

end Tag

end CipUnits
