import QueryCanvas.Number.Ratio

/-!
# The binary64 number nearest to a decimal

Above zero the binary64 numbers lie on grids of multiples of powers of two: between two neighbouring
powers of two there are `2 ^ 52` of them, and below the least normal one they continue its grid.
A decimal is rounded on the grid of the powers of two around it, so that its bits are the place of
the rounded multiple in the order of all numbers. Everything is computed with natural numbers, for
decimals of any length.
-/

namespace QueryCanvas.Number

/-- The number of binary64 numbers between two neighbouring powers of two. -/
def gridSize : Nat := 0x10000000000000

/-- The exponent of the finest grid of binary64 numbers. -/
def leastGrid : Int := -1074

/-- The bits of infinity, the first ones above those of the finite positive numbers. -/
def firstInfinite : Nat := 0x7FF0000000000000

/-- The place of the binary64 number nearest to a positive ratio in the order of the positive ones,
which is its bits. A half goes to the even multiple. -/
def nearestPlace (r : Ratio) : Nat :=
  let grid := max (r.leadingPower - 52) leastGrid
  (grid - leastGrid).toNat * gridSize + (r.shiftIn 2 grid).rounded

/-- The bits of the binary64 number nearest to `significand · 10 ^ exponent`, or nothing if it is
infinite. Below `10 ^ -400` every number is zero, and from `10 ^ 400` on none is finite, which is
decided without forming the power. -/
def nearestBits? (significand : Nat) (exponent : Int) : Option UInt64 :=
  if significand = 0 then some 0
  else
    let lead : Int := exponent + (Nat.toDigits 10 significand).length
    if lead < -400 then some 0
    else if 400 < lead then none
    else
      let place := nearestPlace ((⟨significand, 1⟩ : Ratio).shift (-exponent))
      if place < firstInfinite then some place.toUInt64 else none

end QueryCanvas.Number
