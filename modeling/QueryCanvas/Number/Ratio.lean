/-!
# Ratios of natural numbers

Positive rational numbers as pairs of natural numbers, and where they lie among the powers of ten
and of two. No ratio is reduced: each function depends on the quotient alone.
-/

namespace QueryCanvas.Number

/-- A positive rational number `num / den`. -/
structure Ratio where
  num : Nat
  den : Nat

namespace Ratio

/-- The exponent of the leading decimal digit of a positive ratio. -/
def leadingExponent (r : Ratio) : Int :=
  if r.den ≤ r.num then ((Nat.toDigits 10 (r.num / r.den)).length : Int) - 1
  else
    let ceiling := (r.den + r.num - 1) / r.num
    Int.negOfNat (Nat.toDigits 10 (ceiling - 1)).length

/-- The exponent of the greatest power of two that is at most a positive ratio. -/
def leadingPower (r : Ratio) : Int :=
  if r.den ≤ r.num then (r.num / r.den).log2
  else
    let ceiling := (r.den + r.num - 1) / r.num
    Int.negOfNat ((ceiling - 1).log2 + 1)

/-- The ratio divided by a power of a base. -/
def shiftIn (base : Nat) (r : Ratio) (power : Int) : Ratio :=
  if 0 ≤ power then ⟨r.num, r.den * Nat.pow base power.toNat⟩
  else ⟨r.num * Nat.pow base (-power).toNat, r.den⟩

/-- The ratio divided by a power of ten. -/
def shift (r : Ratio) (power : Int) : Ratio :=
  r.shiftIn 10 power

/-- The natural number nearest to a ratio, and of two equally near ones the even one. -/
def rounded (r : Ratio) : Nat :=
  let below := r.num / r.den
  let rest := 2 * (r.num % r.den)
  if r.den < rest then below + 1
  else if rest = r.den then below + below % 2
  else below

end Ratio

end QueryCanvas.Number
