import CipUnits.Text.Glyphless

/-!
# `CipUnits.Text.Quoted` — text in double quotes, every character visible

A quoted text shows what a text holds even where it would not show by itself: quotes and backslashes
are escaped, the usual controls have their short escapes, and every other character without a glyph
of its own is written by its code point.
-/

namespace CipUnits.Text

/-- How one character stands in a quoted text. -/
def quotedChar (c : Char) : List Char :=
  match c with
  | '"' => ['\\', '"']
  | '\\' => ['\\', '\\']
  | '\n' => ['\\', 'n']
  | '\r' => ['\\', 'r']
  | '\t' => ['\\', 't']
  | '\x00' => ['\\', '0']
  | _ => if isGlyphless c then ['\\', 'u', '\x7b'] ++ Nat.toDigits 16 c.toNat ++ ['\x7d'] else [c]

/-- The text between double quotes, every character visible. -/
def quoted (text : String) : String :=
  String.ofList ('"' :: text.toList.flatMap quotedChar ++ ['"'])

end CipUnits.Text
