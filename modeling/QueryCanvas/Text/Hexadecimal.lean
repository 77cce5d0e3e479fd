/-!
# Hexadecimal digits
-/

namespace QueryCanvas.Text

/-- The last digits of a number in lowercase hexadecimal, padded with zeros to a width. -/
def hexDigits (width n : Nat) : List Char :=
  (List.range width).reverse.map fun i => Nat.digitChar (n / Nat.pow 16 i % 16)

end QueryCanvas.Text
