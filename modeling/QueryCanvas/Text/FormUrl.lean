/-!
# Form encoding

The value of a query parameter in a URL: letters, digits and `*-._` stand for themselves, a blank is
written as a plus sign, and every other byte of the text as a percent sign and two hexadecimal
digits.
-/

namespace QueryCanvas.Text

/-- A byte that stands for itself. -/
def isPlainByte (b : UInt8) : Bool :=
  let c := Char.ofNat b.toNat
  c.isAlphanum || c == '*' || c == '-' || c == '.' || c == '_'

/-- An upper-case hexadecimal digit. -/
def upperHexDigit (n : Nat) : Char :=
  (Nat.digitChar n).toUpper

/-- How a byte is written. -/
def formByte (b : UInt8) : List Char :=
  if isPlainByte b then [Char.ofNat b.toNat]
  else if b = 0x20 then ['+']
  else ['%', upperHexDigit (b.toNat / 16), upperHexDigit (b.toNat % 16)]

/-- The form encoding of a text. -/
def formEncode (text : String) : String :=
  String.ofList (text.toUTF8.toList.flatMap formByte)

end QueryCanvas.Text
