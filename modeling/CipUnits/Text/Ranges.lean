/-!
# `CipUnits.Text.Ranges` — sets of code points as ascending ranges

The form in which the Unicode tables are kept: disjoint ranges of code points, both ends included,
in ascending order.
-/

namespace CipUnits.Text

/-- Ascending, disjoint ranges of code points, both ends included. -/
abbrev Ranges := List (Nat × Nat)

/-- Whether a character lies in one of the ranges. The search ends at the first range above it. -/
def Ranges.has (c : Char) : Ranges → Bool
  | [] => false
  | (first, last) :: ranges =>
      if c.toNat < first then false else if c.toNat ≤ last then true else Ranges.has c ranges

end CipUnits.Text
