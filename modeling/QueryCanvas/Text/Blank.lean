import QueryCanvas.Text.Ranges

/-!
# White space

The characters with the Unicode property `White_Space`, and texts made of nothing else.
-/

namespace QueryCanvas.Text

/-- The characters with the property `White_Space`. -/
def whiteSpaceTable : Ranges :=
  [(0x9, 0xD), (0x20, 0x20), (0x85, 0x85), (0xA0, 0xA0), (0x1680, 0x1680), (0x2000, 0x200A),
   (0x2028, 0x2029), (0x202F, 0x202F), (0x205F, 0x205F), (0x3000, 0x3000)]

/-- A white-space character of any script. -/
def isWhiteSpace (c : Char) : Bool :=
  whiteSpaceTable.holds c

/-- The text has nothing but white space. -/
def isBlank (s : String) : Bool :=
  s.toList.all isWhiteSpace

end QueryCanvas.Text
