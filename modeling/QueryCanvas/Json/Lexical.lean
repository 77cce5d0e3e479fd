import QueryCanvas.Json.Problem

/-!
# The pieces of a JSON text

Readers take the characters that are left and give what they read together with the rest. They
work in one pass: the first problem in reading order decides. `readString` is the inverse of
writing a quoted text.
-/

namespace QueryCanvas.Json

/-- What a reader gives: a value and the characters after it, or the first problem. -/
abbrev Reading (α : Type) := Except ReadError (α × List Char)

/-- The four blanks of a JSON text. -/
def isBlankChar (c : Char) : Bool :=
  c == ' ' || c == '\n' || c == '\t' || c == '\r'

/-- The characters from the first one that is no blank. -/
def skipBlanks (cs : List Char) : List Char :=
  cs.dropWhile isBlankChar

/-- Take exactly the given characters. -/
def readWord : List Char → List Char → Except ReadError (List Char)
  | [], cs => .ok cs
  | _ :: _, [] => .error .unfinished
  | w :: ws, c :: cs => if c = w then readWord ws cs else .error .malformed

/-- The value of a hexadecimal digit. -/
def hexDigit? (c : Char) : Option Nat :=
  if '0' ≤ c ∧ c ≤ '9' then some (c.toNat - '0'.toNat)
  else if 'a' ≤ c ∧ c ≤ 'f' then some (c.toNat - 'a'.toNat + 10)
  else if 'A' ≤ c ∧ c ≤ 'F' then some (c.toNat - 'A'.toNat + 10)
  else none

/-- The number of four hexadecimal digits. -/
def hexNumber? (a b c d : Char) : Option Nat := do
  let a ← hexDigit? a
  let b ← hexDigit? b
  let c ← hexDigit? c
  let d ← hexDigit? d
  return ((a * 16 + b) * 16 + c) * 16 + d

/-- What is wrong with characters that do not start with four hexadecimal digits: they are
unfinished when they take less than four bytes. -/
def hexFault (cs : List Char) : ReadError :=
  if (String.ofList (cs.take 4)).utf8ByteSize < 4 then .unfinished else .malformed

/-- The four hexadecimal digits of an escape. -/
def readHex : List Char → Reading Nat
  | a :: b :: c :: d :: rest =>
      match hexNumber? a b c d with
      | some n => .ok (n, rest)
      | none => .error .malformed
  | cs => .error (hexFault cs)

/-- The character of a one-letter escape. -/
def shortEscape? (c : Char) : Option Char :=
  match c with
  | '"' => some '"'
  | '\\' => some '\\'
  | '/' => some '/'
  | 'b' => some '\x08'
  | 'f' => some '\x0c'
  | 'n' => some '\n'
  | 'r' => some '\r'
  | 't' => some '\t'
  | _ => none

/-- Put a character before a text that is still being read. -/
def prepend (c : Char) : Reading (List Char) → Reading (List Char)
  | .ok (text, rest) => .ok (c :: text, rest)
  | .error e => .error e

/-- The characters of a text up to its closing quote. An escape of a leading surrogate must be
followed by one of a trailing surrogate. -/
def readChars : List Char → Reading (List Char)
  | [] => .error .unfinished
  | '"' :: rest => .ok ([], rest)
  | '\\' :: [] => .error .unfinished
  | '\\' :: 'u' :: a :: b :: c :: d :: rest =>
      match hexNumber? a b c d with
      | none => .error .malformed
      | some n =>
          if 0xDC00 ≤ n ∧ n ≤ 0xDFFF then .error .malformed
          else if 0xD800 ≤ n ∧ n ≤ 0xDBFF then
            match rest with
            | [] => .error .unfinished
            | '\\' :: [] => .error .unfinished
            | '\\' :: 'u' :: e :: f :: g :: h :: rest =>
                match hexNumber? e f g h with
                | none => .error .malformed
                | some m =>
                    if 0xDC00 ≤ m ∧ m ≤ 0xDFFF then
                      prepend (Char.ofNat (0x10000 + (n - 0xD800) * 0x400 + (m - 0xDC00)))
                        (readChars rest)
                    else .error .malformed
            | '\\' :: 'u' :: short => .error (hexFault short)
            | _ => .error .malformed
          else prepend (Char.ofNat n) (readChars rest)
  | '\\' :: 'u' :: short => .error (hexFault short)
  | '\\' :: e :: rest =>
      match shortEscape? e with
      | some c => prepend c (readChars rest)
      | none => .error .malformed
  | c :: rest => if c.toNat < 0x20 then .error .malformed else prepend c (readChars rest)

/-- A text after its opening quote. -/
def readString (cs : List Char) : Reading String :=
  match readChars cs with
  | .ok (text, rest) => .ok (String.ofList text, rest)
  | .error e => .error e

/-- The colon between the name and the value of a member. -/
def readColon (cs : List Char) : Except ReadError (List Char) :=
  match skipBlanks cs with
  | ':' :: rest => .ok rest
  | [] => .error .unfinished
  | _ => .error .malformed

/-- The start of the next item of an array, or nothing at its closing bracket, which stays. -/
def nextItem (first : Bool) (cs : List Char) : Except ReadError (Option (List Char)) :=
  match skipBlanks cs with
  | [] => .error .unfinished
  | ']' :: _ => .ok none
  | c :: rest =>
      if first then .ok (some (c :: rest))
      else if c = ',' then
        match skipBlanks rest with
        | [] => .error .unfinished
        | ']' :: _ => .error .malformed
        | next => .ok (some next)
      else .error .malformed

/-- The name of the next member of an object, or nothing at its closing brace, which stays. -/
def nextName (first : Bool) (cs : List Char) : Except ReadError (Option (String × List Char)) :=
  match skipBlanks cs with
  | [] => .error .unfinished
  | '}' :: _ => .ok none
  | c :: rest =>
      if first then
        if c = '"' then (readString rest).map some else .error .malformed
      else if c = ',' then
        match skipBlanks rest with
        | [] => .error .unfinished
        | '"' :: text => (readString text).map some
        | _ => .error .malformed
      else .error .malformed

/-- The closing bracket of an array all of whose items were read. -/
def closeArray (cs : List Char) : Except ReadError (List Char) :=
  match skipBlanks cs with
  | ']' :: rest => .ok rest
  | [] => .error .unfinished
  | _ => .error .malformed

/-- The closing brace of an object all of whose members were read. -/
def closeObject (cs : List Char) : Except ReadError (List Char) :=
  match skipBlanks cs with
  | '}' :: rest => .ok rest
  | [] => .error .unfinished
  | _ => .error .malformed

end QueryCanvas.Json
