import QueryCanvas.Json.Lexical

/-!
# Numbers in a JSON text

A number without fraction and exponent that fits 64 bits is whole. Any other number, and the
negative zero, is a binary64 number: its digits are kept as long as they fit 64 bits, and the power
of ten is then applied by one multiplication or division. A number too large for binary64 is
malformed.
-/

namespace QueryCanvas.Json

/-- A number as it was read. -/
inductive Numeral where
  | whole (value : Int)
  | real (bits : UInt64)
deriving DecidableEq, Repr

/-- The largest 64-bit significand. -/
def significandLimit : Nat := UInt64.size

/-- Append digits to a significand as long as it stays below the limit; the second part counts the
digits that were left. -/
def absorb (significand : Nat) : List Char → Nat × Nat
  | [] => (significand, 0)
  | c :: cs =>
      let next := significand * 10 + (c.toNat - '0'.toNat)
      if next < significandLimit then absorb next cs else (significand, (c :: cs).length)

/-- The binary64 power of ten with an exponent up to 308. -/
def powerOfTen (exponent : Nat) : Float :=
  Float.ofScientific 1 false exponent

/-- Multiply by a power of ten. Exponents below -308 are reached by dividing by `10 ^ 308` first,
at most as often as the fuel says. Nothing is given on overflow. -/
def scaleByTen (fuel : Nat) (x : Float) (exponent : Int) : Option Float :=
  if exponent.natAbs ≤ 308 then
    if 0 ≤ exponent then
      let y := x * powerOfTen exponent.natAbs
      if y.isInf then none else some y
    else some (x / powerOfTen exponent.natAbs)
  else if x == 0 then some x
  else if 0 ≤ exponent then none
  else
    match fuel with
    | 0 => some 0
    | fuel + 1 => scaleByTen fuel (x / powerOfTen 308) (exponent + 308)

/-- The binary64 number `± significand · 10 ^ exponent`. -/
def realNumeral (negative : Bool) (significand : Nat) (exponent : Int) :
    Except ReadError Numeral :=
  match scaleByTen 3 significand.toUInt64.toFloat exponent with
  | some x => .ok (.real (if negative then -x else x).toBits)
  | none => .error .malformed

/-- The number of a sequence of digits. -/
def digitsValue (digits : List Char) : Nat :=
  digits.foldl (fun n c => n * 10 + (c.toNat - '0'.toNat)) 0

/-- The number of an exponent's digits, or nothing if it does not fit 31 bits. -/
def exponentValue? (digits : List Char) : Option Nat :=
  let e := digitsValue digits
  if (e : Int) ≤ Int32.maxValue.toInt then some e else none

/-- The rest of a number after the letter of its exponent. -/
def readExponent (negative : Bool) (significand : Nat) (start : Int) (cs : List Char) :
    Reading Numeral :=
  let (down, cs) :=
    match cs with
    | '+' :: rest => (false, rest)
    | '-' :: rest => (true, rest)
    | rest => (false, rest)
  let digits := cs.takeWhile Char.isDigit
  let rest := cs.dropWhile Char.isDigit
  if digits.isEmpty then
    .error (if rest.isEmpty then .unfinished else .malformed)
  else
    match exponentValue? digits with
    | some e =>
        (realNumeral negative significand (if down then start - e else start + e)).map (·, rest)
    | none =>
        if significand ≠ 0 ∧ !down then .error .malformed
        else .ok (.real (if negative then (-0.0 : Float) else 0.0).toBits, rest)

/-- The rest of a number after its point. -/
def readFraction (negative : Bool) (significand : Nat) (start : Int) (cs : List Char) :
    Reading Numeral :=
  let digits := cs.takeWhile Char.isDigit
  let rest := cs.dropWhile Char.isDigit
  if digits.isEmpty then
    .error (if rest.isEmpty then .unfinished else .malformed)
  else
    let (significand, left) := absorb significand digits
    let exponent := start - ((digits.length - left : Nat) : Int)
    match rest with
    | 'e' :: rest => readExponent negative significand exponent rest
    | 'E' :: rest => readExponent negative significand exponent rest
    | rest => (realNumeral negative significand exponent).map (·, rest)

/-- A number without fraction and exponent whose digits all fit 64 bits. -/
def wholeNumeral (negative : Bool) (significand : Nat) : Numeral :=
  if !negative then .whole significand
  else if 0 < significand ∧ Int64.minValue.toInt ≤ -(significand : Int) then
    .whole (-(significand : Int))
  else .real (-significand.toUInt64.toFloat).toBits

/-- A number after its sign. -/
def readUnsigned (negative : Bool) (cs : List Char) : Reading Numeral :=
  let digits := cs.takeWhile Char.isDigit
  let rest := cs.dropWhile Char.isDigit
  match digits with
  | [] => .error (if rest.isEmpty then .unfinished else .malformed)
  | '0' :: _ :: _ => .error .malformed
  | digits =>
      let (significand, left) := absorb 0 digits
      match rest with
      | '.' :: rest => readFraction negative significand left rest
      | 'e' :: rest => readExponent negative significand left rest
      | 'E' :: rest => readExponent negative significand left rest
      | rest =>
          if left = 0 then .ok (wholeNumeral negative significand, rest)
          else (realNumeral negative significand left).map (·, rest)

/-- A number, from its sign or first digit. -/
def readNumeral : List Char → Reading Numeral
  | '-' :: cs => readUnsigned true cs
  | cs => readUnsigned false cs

/-- A number as messages name it. -/
def Numeral.found : Numeral → Found
  | .whole n => .int n
  | .real bits => .float bits

end QueryCanvas.Json
