/-!
# Values of a TOML document

The values that a document gives to its names. Whole numbers may be of any size, a float that is too
large for binary64 has no bits, and of dates and times only their place is kept.
-/

namespace QueryCanvas.Toml

/-- A value of a document. -/
inductive Value where
  | string (text : String)
  | integer (value : Int)
  | float (bits : Option UInt64)
  | boolean (value : Bool)
  | moment
  | array (items : List Value)
  | table (members : List (String × Value))
deriving Repr

/-- Whole numbers up to 128 bits can be read. -/
def isModerate (n : Int) : Bool :=
  -(Nat.pow 2 127 : Nat) ≤ n && n < (Nat.pow 2 128 : Nat)

mutual

/-- All numbers in the value are of a size that can be read. -/
def Value.isReadable : Value → Bool
  | .integer n => isModerate n
  | .float bits => bits.isSome
  | .array items => allReadable items
  | .table members => membersReadable members
  | _ => true

/-- All numbers in the items are of a size that can be read. -/
def allReadable : List Value → Bool
  | [] => true
  | v :: vs => v.isReadable && allReadable vs

/-- All numbers in the members are of a size that can be read. -/
def membersReadable : List (String × Value) → Bool
  | [] => true
  | (_, v) :: ms => v.isReadable && membersReadable ms

end

end QueryCanvas.Toml
