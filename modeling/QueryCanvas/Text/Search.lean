/-!
# Finding a pattern in a text

`occursIn` looks for a pattern at every position, and `occursIn_iff` says that it finds exactly
the contiguous parts of a text.
-/

namespace QueryCanvas.Text

/-- The pattern stands somewhere in the text. -/
def occursIn (pattern : List Char) : List Char → Bool
  | [] => pattern.isEmpty
  | c :: cs => pattern.isPrefixOf (c :: cs) || occursIn pattern cs

/-- A pattern is found exactly if it is a contiguous part. -/
theorem occursIn_iff {pattern text : List Char} :
    occursIn pattern text = true ↔ pattern <:+: text := by
  induction text with
  | nil => simp [occursIn]
  | cons c cs ih => simp [occursIn, ih, List.infix_cons_iff]

/-- The pattern stands somewhere in the text. -/
def contains (text pattern : String) : Bool :=
  occursIn pattern.toList text.toList

/-- The text ends with the pattern. -/
def endsWith (text pattern : String) : Bool :=
  pattern.toList.isSuffixOf text.toList

end QueryCanvas.Text
