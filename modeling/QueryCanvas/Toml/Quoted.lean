import QueryCanvas.Json.Lexical

/-!
# Quoted texts in a TOML document

A text stands between apostrophes as it is, or between quotation marks with escapes. Between three
of either it may run over several lines; a line end right after the opening marks is left out, and
one or two marks may stand right before the closing ones. In a text with escapes a backslash at the
end of a line leaves out all blanks and line ends that follow.
-/

namespace QueryCanvas.Toml

/-- A character that may stand in a text or a comment. -/
def isTextChar (c : Char) : Bool :=
  c == '\t' || (0x20 ≤ c.toNat && c.toNat != 0x7F)

/-- A character of a line end. Carriage returns stand only before line feeds. -/
def isLineEnd (c : Char) : Bool :=
  c == '\n' || c == '\r'

/-- A character that may stand in a text of one or of several lines. -/
def isAllowed (lines : Bool) (c : Char) : Bool :=
  isTextChar c || (lines && isLineEnd c)

/-- The characters after the opening marks of several lines, without a line end right there. -/
def skipFirstLineEnd : List Char → List Char
  | '\n' :: cs => cs
  | '\r' :: '\n' :: cs => cs
  | cs => cs

/-- What closes a text at these characters: the marks that still belong to it, and what follows. -/
def closing? (mark : Char) : Bool → List Char → Option (List Char × List Char)
  | false, c :: rest => if c = mark then some ([], rest) else none
  | true, c :: d :: e :: rest =>
      if c = mark ∧ d = mark ∧ e = mark then
        let more := (rest.take 2).takeWhile (· == mark)
        some (more, rest.drop more.length)
      else none
  | _, _ => none

/-- The characters of a text without escapes and what follows its closing marks. -/
def readLiteral (lines : Bool) : List Char → Option (List Char × List Char)
  | [] => none
  | c :: cs =>
      match closing? '\'' lines (c :: cs) with
      | some closed => some closed
      | none =>
          if isAllowed lines c then
            (readLiteral lines cs).map fun (text, rest) => (c :: text, rest)
          else none

/-- Where a reader of a text with escapes stands: between characters, after a backslash, within the
digits of an escape, or in the blanks that a backslash leaves out, before or after the line end. -/
inductive Place where
  | plain
  | escape
  | digits (left value : Nat)
  | gap (broken : Bool)
deriving DecidableEq, Repr

namespace Place

/-- A text may end here. -/
def isOpen : Place → Bool
  | .plain => true
  | .gap true => true
  | _ => false

/-- A character that stands for itself, or the backslash of an escape. -/
def plainStep (lines : Bool) (c : Char) : Option (Place × List Char) :=
  if c = '\\' then some (.escape, [])
  else if isAllowed lines c then some (.plain, [c])
  else none

/-- The character after a backslash. -/
def escapeStep (lines : Bool) (c : Char) : Option (Place × List Char) :=
  match c with
  | 'b' => some (.plain, ['\x08'])
  | 't' => some (.plain, ['\t'])
  | 'n' => some (.plain, ['\n'])
  | 'f' => some (.plain, ['\x0c'])
  | 'r' => some (.plain, ['\r'])
  | 'e' => some (.plain, ['\x1b'])
  | '"' => some (.plain, ['"'])
  | '\\' => some (.plain, ['\\'])
  | 'x' => some (.digits 2 0, [])
  | 'u' => some (.digits 4 0, [])
  | 'U' => some (.digits 8 0, [])
  | '\n' => if lines then some (.gap true, []) else none
  | c => if lines ∧ (c = ' ' ∨ c = '\t' ∨ c = '\r') then some (.gap false, []) else none

/-- One more character of a text: the place after it, and what it adds. -/
def step (lines : Bool) : Place → Char → Option (Place × List Char)
  | .plain, c => plainStep lines c
  | .escape, c => escapeStep lines c
  | .digits left value, c => do
      let value := value * 16 + (← Json.hexDigit? c)
      if 1 < left then some (.digits (left - 1) value, [])
      else if value.isValidChar then some (.plain, [Char.ofNat value])
      else none
  | .gap broken, c =>
      if c = '\n' then some (.gap true, [])
      else if c = ' ' ∨ c = '\t' ∨ c = '\r' then some (.gap broken, [])
      else if broken then plainStep lines c
      else none

end Place

/-- The characters of a text with escapes and what follows its closing marks. -/
def readEscaped (lines : Bool) (place : Place) : List Char → Option (List Char × List Char)
  | [] => none
  | c :: cs =>
      match if place.isOpen then closing? '"' lines (c :: cs) else none with
      | some closed => some closed
      | none =>
          match place.step lines c with
          | none => none
          | some (next, added) =>
              (readEscaped lines next cs).map fun (text, rest) => (added ++ text, rest)

/-- A text of one line, from its opening mark. -/
def readLine : List Char → Option (String × List Char)
  | '"' :: cs => (readEscaped false .plain cs).map fun (text, rest) => (String.ofList text, rest)
  | '\'' :: cs => (readLiteral false cs).map fun (text, rest) => (String.ofList text, rest)
  | _ => none

/-- A text of one or of several lines, from its opening marks. -/
def readQuoted : List Char → Option (String × List Char)
  | '"' :: '"' :: '"' :: cs =>
      (readEscaped true .plain (skipFirstLineEnd cs)).map fun (text, rest) =>
        (String.ofList text, rest)
  | '\'' :: '\'' :: '\'' :: cs =>
      (readLiteral true (skipFirstLineEnd cs)).map fun (text, rest) => (String.ofList text, rest)
  | cs => readLine cs

end QueryCanvas.Toml
