/-!
# Texts of the operating system

The system keeps its paths as bytes, which need not spell a text. Any text has its bytes, and bytes
can be shown: characters that they spell are kept, and each run of other bytes is shown as one
replacement character.
-/

namespace QueryCanvas

/-- The bytes of a path. -/
structure OsText where
  bytes : List UInt8
deriving DecidableEq, Repr

namespace OsText

/-- The bytes of a text. -/
def ofString (text : String) : OsText :=
  ⟨text.toList.flatMap String.utf8EncodeChar⟩

instance : Coe String OsText := ⟨ofString⟩

/-- The text that the bytes spell, if they spell one. -/
def text? (path : OsText) : Option String :=
  String.fromUTF8? path.bytes.toByteArray

/-- The byte goes on with a character. -/
def isContinuation (byte : UInt8) : Bool :=
  0x80 ≤ byte && byte ≤ 0xBF

/-- The byte may come second in a character of three or four bytes, after its first byte. -/
def isSecond (first byte : UInt8) : Bool :=
  if first = 0xE0 then 0xA0 ≤ byte && byte ≤ 0xBF
  else if first = 0xED then 0x80 ≤ byte && byte ≤ 0x9F
  else if first = 0xF0 then 0x90 ≤ byte && byte ≤ 0xBF
  else if first = 0xF4 then 0x80 ≤ byte && byte ≤ 0x8F
  else 0xE1 ≤ first && first ≤ 0xF3 && isContinuation byte

/-- How many bytes are shown as one replacement character where bytes spell no character: as many as
begin a character, and at least one. -/
def strayLength : List UInt8 → Nat
  | first :: second :: rest =>
      if !isSecond first second then 1
      else
        match rest with
        | third :: _ => if 0xF0 ≤ first && isContinuation third then 3 else 2
        | [] => 2
  | _ => 1

theorem strayLength_pos (bytes : List UInt8) : 0 < strayLength bytes := by
  unfold strayLength
  repeat' split
  all_goals decide

/-- The characters that show bytes. -/
def shownChars (bytes : List UInt8) : List Char :=
  if bytes = [] then []
  else
    match bytes.toByteArray.utf8DecodeChar? 0 with
    | some c => c :: shownChars (bytes.drop c.utf8Size)
    | none => '\uFFFD' :: shownChars (bytes.drop (strayLength bytes))
termination_by bytes.length
decreasing_by
  all_goals
    have hpos := List.length_pos_iff.mpr ‹bytes ≠ []›
    rw [List.length_drop]
  · have := c.utf8Size_pos
    omega
  · have := strayLength_pos bytes
    omega

/-- The text that shows the bytes. -/
def shown (path : OsText) : String :=
  String.ofList (shownChars path.bytes)

end OsText

end QueryCanvas
