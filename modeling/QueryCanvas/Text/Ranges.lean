/-!
# Sets of characters given by code point ranges

The tables of character properties are lists of inclusive ranges. A character is in a table when one
of its ranges contains its code point (`Ranges.holds`).
-/

namespace QueryCanvas.Text

/-- A set of characters, as inclusive ranges of code points. -/
abbrev Ranges := List (Nat × Nat)

/-- The character lies in one of the ranges. -/
def Ranges.holds (table : Ranges) (c : Char) : Bool :=
  table.any fun (low, high) => low ≤ c.toNat && c.toNat ≤ high

end QueryCanvas.Text
