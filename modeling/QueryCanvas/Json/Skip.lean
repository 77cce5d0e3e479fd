import QueryCanvas.Json.Lexical

/-!
# Skipping a value

A value that nobody asked for is passed over character by character, however deeply it is nested.
Its texts and numbers are checked for their form only. A number that is cut short by the end of the
text is malformed here, not unfinished.
-/

namespace QueryCanvas.Json

/-- A container that is still open. -/
inductive Bracket where
  | array
  | object
deriving DecidableEq, Repr

/-- Where the skipper stands. `hex` counts the digits of an escape that are left, `word` holds the
letters of a literal that are left, and the texts say whether they are names of members. -/
inductive Place where
  | value
  | itemOrEnd
  | nameOrEnd
  | name
  | colon
  | text (isName : Bool)
  | escape (isName : Bool)
  | hex (isName : Bool) (left : Nat)
  | word (letters : List Char)
  | minus
  | zero
  | digits
  | point
  | fraction
  | exponent
  | exponentSign
  | exponentDigits
  | after
deriving DecidableEq, Repr

/-- What is wrong when the text ends here. -/
def Place.fault : Place → ReadError
  | .minus | .point | .exponent | .exponentSign => .malformed
  | _ => .unfinished

/-- A number may end here. -/
def Place.endsNumber : Place → Bool
  | .zero | .digits | .fraction | .exponentDigits => true
  | _ => false

/-- The place after the first character of a value, and the container that it opens. -/
def startValue (c : Char) : Option (Place × Option Bracket) :=
  match c with
  | 'n' => some (.word ['u', 'l', 'l'], none)
  | 't' => some (.word ['r', 'u', 'e'], none)
  | 'f' => some (.word ['a', 'l', 's', 'e'], none)
  | '-' => some (.minus, none)
  | '0' => some (.zero, none)
  | '"' => some (.text false, none)
  | '[' => some (.itemOrEnd, some .array)
  | '{' => some (.nameOrEnd, some .object)
  | c => if c.isDigit then some (.digits, none) else none

/-- The place after a character of a number that goes on, nothing where it does not go on. -/
def continueNumber (place : Place) (c : Char) : Option Place :=
  match place with
  | .minus => if c = '0' then some .zero else if c.isDigit then some .digits else none
  | .zero => if c = '.' then some .point else if c = 'e' ∨ c = 'E' then some .exponent else none
  | .digits =>
      if c.isDigit then some .digits
      else if c = '.' then some .point
      else if c = 'e' ∨ c = 'E' then some .exponent
      else none
  | .point => if c.isDigit then some .fraction else none
  | .fraction =>
      if c.isDigit then some .fraction
      else if c = 'e' ∨ c = 'E' then some .exponent
      else none
  | .exponent =>
      if c = '+' ∨ c = '-' then some .exponentSign
      else if c.isDigit then some .exponentDigits
      else none
  | .exponentSign | .exponentDigits => if c.isDigit then some .exponentDigits else none
  | _ => none

/-- What the skipper does at a character: go on, stop with the character taken, or stop before the
character, or fail. -/
inductive Move where
  | go (place : Place) (stack : List Bracket)
  | stopAfter
  | stopBefore
  | fail (error : ReadError)

/-- A value has just ended inside the open containers and the next character is `c`. -/
def afterValue (stack : List Bracket) (c : Char) : Move :=
  match stack with
  | [] => .stopBefore
  | top :: below =>
      if isBlankChar c then .go .after stack
      else
        match top with
        | .array =>
            if c = ',' then .go .value stack
            else if c = ']' then (if below.isEmpty then .stopAfter else .go .after below)
            else .fail .malformed
        | .object =>
            if c = ',' then .go .name stack
            else if c = '}' then (if below.isEmpty then .stopAfter else .go .after below)
            else .fail .malformed

/-- A value has just ended with its last character. -/
def endValue (stack : List Bracket) : Move :=
  if stack.isEmpty then .stopAfter else .go .after stack

/-- One character, with the characters from it on for the look ahead of an escape. -/
def skipMove (place : Place) (stack : List Bracket) (c : Char) (rest : List Char) : Move :=
  match place with
  | .value =>
      if isBlankChar c then .go .value stack
      else
        match startValue c with
        | some (next, some bracket) => .go next (bracket :: stack)
        | some (next, none) => .go next stack
        | none => .fail .malformed
  | .itemOrEnd =>
      if isBlankChar c then .go .itemOrEnd stack
      else if c = ']' then endValue stack.tail
      else
        match startValue c with
        | some (next, some bracket) => .go next (bracket :: stack)
        | some (next, none) => .go next stack
        | none => .fail .malformed
  | .nameOrEnd =>
      if isBlankChar c then .go .nameOrEnd stack
      else if c = '}' then endValue stack.tail
      else if c = '"' then .go (.text true) stack
      else .fail .malformed
  | .name =>
      if isBlankChar c then .go .name stack
      else if c = '"' then .go (.text true) stack
      else .fail .malformed
  | .colon =>
      if isBlankChar c then .go .colon stack
      else if c = ':' then .go .value stack
      else .fail .malformed
  | .text isName =>
      if c = '"' then (if isName then .go .colon stack else endValue stack)
      else if c = '\\' then .go (.escape isName) stack
      else if c.toNat < 0x20 then .fail .malformed
      else .go (.text isName) stack
  | .escape isName =>
      if c = 'u' then
        match readHex rest with
        | .ok _ => .go (.hex isName 4) stack
        | .error e => .fail e
      else if (shortEscape? c).isSome then .go (.text isName) stack
      else .fail .malformed
  | .hex isName left => .go (if left ≤ 1 then .text isName else .hex isName (left - 1)) stack
  | .word letters =>
      match letters with
      | [] => .fail .malformed
      | l :: more =>
          if c = l then (if more.isEmpty then endValue stack else .go (.word more) stack)
          else .fail .malformed
  | .after => afterValue stack c
  | place =>
      match continueNumber place c with
      | some next => .go next stack
      | none =>
          if place.endsNumber && !(place == .zero && c.isDigit) then afterValue stack c
          else .fail .malformed

/-- Skip on from a place inside the open containers. -/
def skipFrom (place : Place) (stack : List Bracket) : List Char → Except ReadError (List Char)
  | [] => if place.endsNumber && stack.isEmpty then .ok [] else .error place.fault
  | c :: rest =>
      match skipMove place stack c rest with
      | .go next stack => skipFrom next stack rest
      | .stopAfter => .ok rest
      | .stopBefore => .ok (c :: rest)
      | .fail e => .error e

/-- The characters after one value. -/
def skipValue (cs : List Char) : Except ReadError (List Char) :=
  skipFrom .value [] cs

end QueryCanvas.Json
