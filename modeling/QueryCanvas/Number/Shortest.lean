import QueryCanvas.Number.Ratio

/-!
# The shortest decimal of a binary64 number

A finite binary64 number is `m · 2^q` for natural `m`. Among the decimals that round back to it,
`shortest` takes one with the fewest digits, of those the nearest, and of two equally near ones the
one with the even last digit. Everything is computed with natural numbers.
-/

namespace QueryCanvas.Number

/-- A finite binary64 magnitude `significand · 2 ^ exponent`. `narrow` says that the gap to the
next smaller magnitude is half the gap to the next larger one. -/
structure Magnitude where
  significand : Nat
  exponent : Int
  narrow : Bool

/-- The sign bit. -/
def isNegative (bits : UInt64) : Bool :=
  bits >>> 63 == 1

/-- The eleven bits of the exponent. -/
def exponentField (bits : UInt64) : Nat :=
  ((bits >>> 52) &&& 0x7FF).toNat

/-- The fifty-two bits of the fraction. -/
def fractionField (bits : UInt64) : Nat :=
  (bits &&& 0xFFFFFFFFFFFFF).toNat

/-- The bits belong to a number that is neither infinite nor a NaN. -/
def isFinite (bits : UInt64) : Bool :=
  exponentField bits != 0x7FF

/-- The magnitude of a finite number. -/
def magnitude (bits : UInt64) : Magnitude :=
  let e := exponentField bits
  let f := fractionField bits
  if e = 0 then ⟨f, -1074, false⟩
  else ⟨f + 0x10000000000000, (e : Int) - 1075, f = 0 && 1 < e⟩

/-- A decimal `digits · 10 ^ exponent`. -/
structure Decimal where
  digits : Nat
  exponent : Int

/-- The decimal without the zeros at its end; the fuel bounds their number. -/
def Decimal.stripZeros : Nat → Decimal → Decimal
  | 0, d => d
  | fuel + 1, d =>
      if d.digits ≠ 0 ∧ d.digits % 10 = 0 then
        Decimal.stripZeros fuel ⟨d.digits / 10, d.exponent + 1⟩
      else d

/-- The better of the two neighbours of a magnitude on the grid of multiples of `10 ^ power`, if
one of them rounds back to the magnitude. The magnitude and its interval are given in quarters of
the last place: `value / 4`, `low / 4` and `high / 4` times `unit`. -/
def onGrid (m : Magnitude) (power : Int) : Option Decimal :=
  let unit : Ratio :=
    if 0 ≤ m.exponent then ⟨Nat.pow 2 m.exponent.toNat, 4⟩
    else ⟨1, 4 * Nat.pow 2 (-m.exponent).toNat⟩
  let scaled := unit.shift power
  let value := 4 * m.significand * scaled.num
  let low := (4 * m.significand - (if m.narrow then 1 else 2)) * scaled.num
  let high := (4 * m.significand + 2) * scaled.num
  let closed := m.significand % 2 == 0
  let inside (d : Nat) : Bool :=
    let x := d * scaled.den
    if closed then low ≤ x && x ≤ high else low < x && x < high
  let below := value / scaled.den
  let above := below + 1
  let downGap := value - below * scaled.den
  let upGap := above * scaled.den - value
  match inside below && below != 0, inside above with
  | true, true =>
      if downGap < upGap then some ⟨below, power⟩
      else if upGap < downGap then some ⟨above, power⟩
      else if below % 2 = 0 then some ⟨below, power⟩
      else some ⟨above, power⟩
  | true, false => some ⟨below, power⟩
  | false, true => some ⟨above, power⟩
  | false, false => none

/-- The first grid that holds a decimal rounding back to the magnitude, from the coarsest on. -/
def firstGrid (m : Magnitude) : Nat → Int → Decimal
  | 0, power => ⟨0, power⟩
  | fuel + 1, power =>
      match onGrid m power with
      | some d => d
      | none => firstGrid m fuel (power - 1)

/-- The shortest decimal of a nonzero magnitude. -/
def shortest (m : Magnitude) : Decimal :=
  let ratio : Ratio :=
    if 0 ≤ m.exponent then ⟨m.significand * Nat.pow 2 m.exponent.toNat, 1⟩
    else ⟨m.significand, Nat.pow 2 (-m.exponent).toNat⟩
  Decimal.stripZeros 20 (firstGrid m 18 ratio.leadingExponent)

/-- A number written with digits on both sides of a point while the exponent of its leading digit
lies from -5 to 15, and in scientific form with a signed exponent otherwise. -/
def Decimal.render (d : Decimal) : List Char :=
  let digits := Nat.toDigits 10 d.digits
  let lead : Int := d.exponent + digits.length - 1
  if -5 ≤ lead ∧ lead ≤ 15 then
    if 0 ≤ d.exponent then digits ++ List.replicate d.exponent.toNat '0' ++ ['.', '0']
    else if 0 ≤ lead then
      digits.take (lead.toNat + 1) ++ '.' :: digits.drop (lead.toNat + 1)
    else '0' :: '.' :: (List.replicate (-lead - 1).toNat '0' ++ digits)
  else
    let mantissa :=
      match digits with
      | [] => []
      | [first] => [first]
      | first :: rest => first :: '.' :: rest
    mantissa ++ 'e' :: (if 0 ≤ lead then '+' else '-') :: Nat.toDigits 10 lead.natAbs

/-- A finite binary64 number, given by its bits, in its shortest form. -/
def renderBits (bits : UInt64) : List Char :=
  let m := magnitude bits
  let body := if m.significand = 0 then ['0', '.', '0'] else (shortest m).render
  if isNegative bits then '-' :: body else body

end QueryCanvas.Number
