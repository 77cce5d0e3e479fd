import QueryCanvas.Json.Value
import QueryCanvas.Number.Shortest

/-!
# JSON texts

Two written forms of a value: `compact` without any blank, and `pretty` with one member or item a
line, indented by two blanks a level. In a text, the quote, the backslash and the controls are
escaped and every other character stands for itself.
-/

namespace QueryCanvas.Json

/-- A character inside a written text. -/
def escape (c : Char) : List Char :=
  match c with
  | '"' => ['\\', '"']
  | '\\' => ['\\', '\\']
  | '\x08' => ['\\', 'b']
  | '\x0c' => ['\\', 'f']
  | '\n' => ['\\', 'n']
  | '\r' => ['\\', 'r']
  | '\t' => ['\\', 't']
  | c =>
      if c.toNat < 0x20 then
        ['\\', 'u', '0', '0', Nat.digitChar (c.toNat / 16), Nat.digitChar (c.toNat % 16)]
      else [c]

/-- A text between quotes. -/
def quote (s : String) : List Char :=
  '"' :: (s.toList.flatMap escape ++ ['"'])

/-- A value that holds no other value. -/
def scalar : Json → List Char
  | .null => "null".toList
  | .bool true => "true".toList
  | .bool false => "false".toList
  | .int n => (toString n).toList
  | .float bits => if Number.isFinite bits then Number.renderBits bits else "null".toList
  | .string s => quote s
  | .array _ | .object _ => []

mutual

/-- The characters of the compact form. -/
def compactChars : Json → List Char
  | .array items => '[' :: compactItems items
  | .object members => '{' :: compactMembers members
  | .null => scalar .null
  | .bool b => scalar (.bool b)
  | .int n => scalar (.int n)
  | .float bits => scalar (.float bits)
  | .string s => scalar (.string s)

/-- The rest of a compact array after its opening bracket. -/
def compactItems : List Json → List Char
  | [] => [']']
  | x :: xs => compactChars x ++ compactMoreItems xs

/-- The rest of a compact array after an item. -/
def compactMoreItems : List Json → List Char
  | [] => [']']
  | x :: xs => ',' :: (compactChars x ++ compactMoreItems xs)

/-- The rest of a compact object after its opening brace. -/
def compactMembers : List (String × Json) → List Char
  | [] => ['}']
  | (k, x) :: xs => quote k ++ ':' :: (compactChars x ++ compactMoreMembers xs)

/-- The rest of a compact object after a member. -/
def compactMoreMembers : List (String × Json) → List Char
  | [] => ['}']
  | (k, x) :: xs => ',' :: (quote k ++ ':' :: (compactChars x ++ compactMoreMembers xs))

end

/-- A line end and the indentation of a level. -/
def newLine (level : Nat) : List Char :=
  '\n' :: List.replicate (2 * level) ' '

mutual

/-- The characters of the indented form of a value at a level. -/
def prettyChars (level : Nat) : Json → List Char
  | .array [] => ['[', ']']
  | .array (x :: xs) =>
      '[' :: (newLine (level + 1) ++ (prettyChars (level + 1) x ++ prettyMoreItems level xs))
  | .object [] => ['{', '}']
  | .object ((k, x) :: xs) =>
      '{' :: (newLine (level + 1) ++
        (quote k ++ ':' :: ' ' :: (prettyChars (level + 1) x ++ prettyMoreMembers level xs)))
  | .null => scalar .null
  | .bool b => scalar (.bool b)
  | .int n => scalar (.int n)
  | .float bits => scalar (.float bits)
  | .string s => scalar (.string s)

/-- The rest of an indented array after an item; the array itself stands at the level. -/
def prettyMoreItems (level : Nat) : List Json → List Char
  | [] => newLine level ++ [']']
  | x :: xs =>
      ',' :: (newLine (level + 1) ++ (prettyChars (level + 1) x ++ prettyMoreItems level xs))

/-- The rest of an indented object after a member; the object itself stands at the level. -/
def prettyMoreMembers (level : Nat) : List (String × Json) → List Char
  | [] => newLine level ++ ['}']
  | (k, x) :: xs =>
      ',' :: (newLine (level + 1) ++
        (quote k ++ ':' :: ' ' :: (prettyChars (level + 1) x ++ prettyMoreMembers level xs)))

end

/-- The form without blanks. -/
def compact (j : Json) : String :=
  String.ofList (compactChars j)

/-- The form with two blanks of indentation a level. -/
def pretty (j : Json) : String :=
  String.ofList (prettyChars 0 j)

end QueryCanvas.Json
