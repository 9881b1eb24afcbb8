/-!
# `CipUnits.Text.Caseless` — comparison that ignores the case of ASCII letters
-/

namespace CipUnits.Text

/-- Whether two texts differ at most in the case of their ASCII letters. All other characters must
    agree exactly: the case maps of `Char` move ASCII letters only. -/
def sameIgnoringCase (a b : List Char) : Bool :=
  a.map Char.toLower == b.map Char.toLower

theorem sameIgnoringCase_iff {a b : List Char} :
    sameIgnoringCase a b = true ↔ a.map Char.toLower = b.map Char.toLower := by
  simp [sameIgnoringCase]

end CipUnits.Text
