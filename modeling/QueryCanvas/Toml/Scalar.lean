import QueryCanvas.Json.Lexical
import QueryCanvas.Number.Nearest
import QueryCanvas.Toml.Value

/-!
# Numbers, truth values and moments

What a TOML document writes without quotes: `true` and `false`, whole numbers in four bases, floats,
and dates and times of the calendar. Digits may be divided by single underscores. A float is the
binary64 number nearest to what is written.
-/

namespace QueryCanvas.Toml

/-- The digits of a numeral without the underscores that divide them. -/
def undivided? (isDigit : Char → Bool) : List Char → Option (List Char)
  | [] => none
  | [c] => if isDigit c then some [c] else none
  | c :: '_' :: cs => if isDigit c then (undivided? isDigit cs).map (c :: ·) else none
  | c :: cs => if isDigit c then (undivided? isDigit cs).map (c :: ·) else none

/-- The number of digits in a base. -/
def numberIn (base : Nat) (digits : List Char) : Nat :=
  digits.foldl (fun n c => n * base + ((Json.hexDigit? c).getD 0)) 0

/-- A digit of a base up to sixteen. -/
def isDigitOf (base : Nat) (c : Char) : Bool :=
  match Json.hexDigit? c with
  | some d => d < base
  | none => false

/-- A numeral in a base. -/
def numeralIn? (base : Nat) (cs : List Char) : Option Value :=
  (undivided? (isDigitOf base) cs).map fun digits => .integer (numberIn base digits)

/-- The digits of a decimal numeral, which has no superfluous zero in front. -/
def decimal? (cs : List Char) : Option (List Char) :=
  match undivided? Char.isDigit cs with
  | some ('0' :: _ :: _) => none
  | digits => digits

/-- The sign of a number is minus, and the characters after the sign. -/
def splitSign : List Char → Bool × List Char
  | '-' :: cs => (true, cs)
  | '+' :: cs => (false, cs)
  | cs => (false, cs)

/-- A whole number. Only decimal ones may have a sign. -/
def integer? (cs : List Char) : Option Value :=
  match cs with
  | '0' :: 'x' :: digits => numeralIn? 16 digits
  | '0' :: 'o' :: digits => numeralIn? 8 digits
  | '0' :: 'b' :: digits => numeralIn? 2 digits
  | cs =>
      let (negative, digits) := splitSign cs
      (decimal? digits).map fun digits =>
        .integer (if negative then -(numberIn 10 digits : Int) else numberIn 10 digits)

/-- The bits of a binary64 number with the sign that is written before its magnitude. -/
def withSign (negative : Bool) (bits : UInt64) : UInt64 :=
  if negative then bits ||| 0x8000000000000000 else bits

/-- The bits of an infinity. -/
def infinityBits (negative : Bool) : UInt64 :=
  withSign negative 0x7FF0000000000000

/-- The bits of a float that is not a number. -/
def nanBits : UInt64 :=
  0x7FF8000000000000

/-- The exponent of a float after its letter. -/
def exponent? (cs : List Char) : Option Int :=
  let (negative, digits) := splitSign cs
  (undivided? Char.isDigit digits).map fun digits =>
    if negative then -(numberIn 10 digits : Int) else numberIn 10 digits

/-- The letter before an exponent. -/
def isExponentLetter (c : Char) : Bool :=
  c == 'e' || c == 'E'

/-- The parts of a float after its sign: the whole part, the fraction and the exponent, of which at
least one of the last two is written. -/
def float? (cs : List Char) : Option Value := do
  let (negative, cs) := splitSign cs
  match cs with
  | ['i', 'n', 'f'] => return .float (some (infinityBits negative))
  | ['n', 'a', 'n'] => return .float (some nanBits)
  | cs =>
      let number := cs.takeWhile (!isExponentLetter ·)
      let exponent ←
        match cs.dropWhile (!isExponentLetter ·) with
        | [] => if number.contains '.' then some 0 else none
        | _ :: digits => exponent? digits
      let whole ← decimal? (number.takeWhile (· != '.'))
      let fraction ←
        match number.dropWhile (· != '.') with
        | [] => some []
        | _ :: digits => undivided? Char.isDigit digits
      let digits := whole ++ fraction
      let magnitude := Number.nearestBits? (numberIn 10 digits) (exponent - fraction.length)
      return .float (magnitude.map (withSign negative))

/-! ## Dates and times -/

/-- The number of the given count of digits at the start. -/
def fixed? (count : Nat) (cs : List Char) : Option (Nat × List Char) :=
  let digits := cs.take count
  if digits.length = count ∧ digits.all Char.isDigit then some (numberIn 10 digits, cs.drop count)
  else none

/-- Take one given character. -/
def sign? (c : Char) : List Char → Option (List Char)
  | d :: cs => if d = c then some cs else none
  | [] => none

/-- The days of a month of a year. -/
def daysIn (year month : Nat) : Nat :=
  if month = 2 then
    if year % 4 = 0 ∧ (year % 100 ≠ 0 ∨ year % 400 = 0) then 29 else 28
  else if month = 4 ∨ month = 6 ∨ month = 9 ∨ month = 11 then 30
  else 31

/-- What follows a date of the calendar. -/
def afterDate? (cs : List Char) : Option (List Char) := do
  let (year, cs) ← fixed? 4 cs
  let cs ← sign? '-' cs
  let (month, cs) ← fixed? 2 cs
  let cs ← sign? '-' cs
  let (day, cs) ← fixed? 2 cs
  if 1 ≤ month ∧ month ≤ 12 ∧ 1 ≤ day ∧ day ≤ daysIn year month then some cs else none

/-- What follows the hours and minutes of a time. -/
def afterMinutes? (cs : List Char) : Option (List Char) := do
  let (hour, cs) ← fixed? 2 cs
  let cs ← sign? ':' cs
  let (minute, cs) ← fixed? 2 cs
  if hour ≤ 23 ∧ minute ≤ 59 then some cs else none

/-- What follows a time of the day, whose seconds and their fraction may be absent. -/
def afterTime? (cs : List Char) : Option (List Char) := do
  let cs ← afterMinutes? cs
  match cs with
  | ':' :: cs =>
      let (second, cs) ← fixed? 2 cs
      if 60 < second then none
      else
        match cs with
        | '.' :: d :: cs => if d.isDigit then some (cs.dropWhile Char.isDigit) else none
        | cs => some cs
  | cs => some cs

/-- The characters are an offset from universal time, or nothing. -/
def isOffset : List Char → Bool
  | [] => true
  | ['Z'] => true
  | ['z'] => true
  | '+' :: cs => afterMinutes? cs == some []
  | '-' :: cs => afterMinutes? cs == some []
  | _ => false

/-- The characters are a date, a time, or both with an optional offset. -/
def isMoment (cs : List Char) : Bool :=
  match afterDate? cs with
  | some [] => true
  | some (c :: rest) =>
      if c = 'T' ∨ c = 't' ∨ c = ' ' then
        match afterTime? rest with
        | some offset => isOffset offset
        | none => false
      else false
  | none => afterTime? cs == some []

/-- The value of characters that stand without quotes. -/
def scalar? (cs : List Char) : Option Value :=
  if cs = ['t', 'r', 'u', 'e'] then some (.boolean true)
  else if cs = ['f', 'a', 'l', 's', 'e'] then some (.boolean false)
  else if isMoment cs then some .moment
  else (integer? cs).or (float? cs)

end QueryCanvas.Toml
