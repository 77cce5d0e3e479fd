import QueryCanvas.Toml.Quoted
import QueryCanvas.Toml.Scalar
import QueryCanvas.Toml.Tree

/-!
# Reading a TOML document

A document is read as statements, one on a line: headers of tables, headers of arrays of tables, and
assignments of values to dotted names. The statements then build the table of the document. There
is one kind of failure: the text is no document. Arrays and inline tables are nested up to
`nestingLimit` deep, and so are the tables that one dotted name leads through.
-/

namespace QueryCanvas.Toml

/-- How deep arrays and inline tables may be nested, and how many names a dotted name may have. -/
def nestingLimit : Nat := 80

/-- A blank within a line. -/
def isBlank (c : Char) : Bool :=
  c == ' ' || c == '\t'

/-- The characters from the first one that is no blank. -/
def skipBlanks (cs : List Char) : List Char :=
  cs.dropWhile isBlank

/-- The characters from the first one that is no blank, line end or comment. -/
def skipFiller (comment : Bool) : List Char → Option (List Char)
  | [] => some []
  | '\n' :: cs => skipFiller false cs
  | '\r' :: cs => skipFiller false cs
  | c :: cs =>
      if comment then if isTextChar c then skipFiller true cs else none
      else if isBlank c then skipFiller false cs
      else if c = '#' then skipFiller true cs
      else some (c :: cs)

/-- What follows the line that a statement ends: blanks and a comment may stand after it. -/
def endLine (comment : Bool) : List Char → Option (List Char)
  | [] => some []
  | '\n' :: cs => some cs
  | '\r' :: cs => some cs
  | c :: cs =>
      if comment then if isTextChar c then endLine true cs else none
      else if isBlank c then endLine false cs
      else if c = '#' then endLine true cs
      else none

/-! ## Names -/

/-- A character of a name without quotes. -/
def isNameChar (c : Char) : Bool :=
  c.isAlphanum || c == '_' || c == '-'

/-- A name. -/
def readName (cs : List Char) : Option (String × List Char) :=
  match cs with
  | '"' :: _ => readLine cs
  | '\'' :: _ => readLine cs
  | cs =>
      let name := cs.takeWhile isNameChar
      if name.isEmpty then none else some (String.ofList name, cs.dropWhile isNameChar)

/-- Names divided by points, at most so many. -/
def readNames : Nat → List Char → Option (List String × List Char)
  | 0, _ => none
  | limit + 1, cs => do
      let (name, rest) ← readName (skipBlanks cs)
      match skipBlanks rest with
      | '.' :: rest =>
          let (names, rest) ← readNames limit rest
          return (name :: names, rest)
      | rest => return ([name], rest)

/-- A dotted name with the blanks around it. -/
def readPath (cs : List Char) : Option (List String × List Char) :=
  readNames nestingLimit cs

/-! ## Values -/

/-- Items divided by commas up to a closing mark, of which the last may have a comma after it. At
most as many are read as the fuel says. -/
def readItems {α : Type} (close : Char) (item : List Char → Option (α × List Char)) :
    Nat → List Char → Option (List α × List Char)
  | 0, _ => none
  | fuel + 1, cs =>
      match skipFiller false cs with
      | none => none
      | some [] => none
      | some (c :: rest) =>
          if c = close then some ([], rest)
          else do
            let (first, rest) ← item (c :: rest)
            match ← skipFiller false rest with
            | ',' :: rest =>
                let (others, rest) ← readItems close item fuel rest
                return (first :: others, rest)
            | d :: rest => if d = close then some ([first], rest) else none
            | [] => none

/-- An assignment of a value to a dotted name. The first function skips what may stand around the
sign of equality. -/
def readAssignment (skip : List Char → Option (List Char))
    (value : List Char → Option (Value × List Char)) (cs : List Char) :
    Option ((List String × Value) × List Char) := do
  let (path, rest) ← readPath cs
  match ← skip rest with
  | '=' :: rest =>
      let (v, rest) ← value (← skip rest)
      return ((path, v), rest)
  | _ => none

/-- A character of a value without quotes. -/
def isScalarChar (c : Char) : Bool :=
  c.isAlphanum || c == '_' || c == '-' || c == '+' || c == '.' || c == ':'

/-- The characters of a value without quotes. A time may follow its date after a single blank. -/
def splitScalar (cs : List Char) : List Char × List Char :=
  let first := cs.takeWhile isScalarChar
  match cs.dropWhile isScalarChar with
  | ' ' :: d :: rest =>
      if afterDate? first = some [] ∧ d.isDigit then
        (first ++ ' ' :: d :: rest.takeWhile isScalarChar, rest.dropWhile isScalarChar)
      else (first, ' ' :: d :: rest)
  | rest => (first, rest)

/-- A value without quotes. -/
def readScalar (cs : List Char) : Option (Value × List Char) :=
  let (text, rest) := splitScalar cs
  (scalar? text).map (·, rest)

/-- A value in which arrays and inline tables are nested at most so deep. Within an inline table
lines may end, and comments stand, on either side of a sign of equality. -/
def readValue : Nat → List Char → Option (Value × List Char)
  | _, '"' :: cs => (readQuoted ('"' :: cs)).map fun (text, rest) => (.string text, rest)
  | _, '\'' :: cs => (readQuoted ('\'' :: cs)).map fun (text, rest) => (.string text, rest)
  | depth + 1, '[' :: cs =>
      (readItems ']' (readValue depth) (cs.length + 1) cs).map fun (items, rest) =>
        (.array items, rest)
  | depth + 1, '{' :: cs => do
      let assignment := readAssignment (skipFiller false) (readValue depth)
      let (assignments, rest) ← readItems '}' assignment (cs.length + 1) cs
      return (← inlineTable assignments, rest)
  | _, cs => readScalar cs

/-! ## Statements -/

/-- A statement of a document. -/
inductive Statement where
  | table (path : List String)
  | element (path : List String)
  | assignment (path : List String) (value : Value)

/-- A statement, from its first character. -/
def readStatement (cs : List Char) : Option (Statement × List Char) :=
  match cs with
  | '[' :: '[' :: rest => do
      let (path, rest) ← readPath rest
      match rest with
      | ']' :: ']' :: rest => return (.element path, rest)
      | _ => none
  | '[' :: rest => do
      let (path, rest) ← readPath rest
      match rest with
      | ']' :: rest => return (.table path, rest)
      | _ => none
  | cs => do
      let ((path, value), rest) ←
        readAssignment (fun cs => some (skipBlanks cs)) (readValue nestingLimit) cs
      return (.assignment path value, rest)

/-- The statements of a document, at most as many as the fuel says. -/
def readStatements : Nat → List Char → Option (List Statement)
  | 0, _ => none
  | fuel + 1, cs =>
      match skipFiller false cs with
      | none => none
      | some [] => some []
      | some rest => do
          let (statement, rest) ← readStatement rest
          let rest ← endLine false rest
          return statement :: (← readStatements fuel rest)

/-- A document under construction: the path of its last header, and the members of its table. -/
structure Draft where
  path : List String
  members : Members

namespace Draft

/-- Add a statement. -/
def add (d : Draft) : Statement → Option Draft
  | .table path => do
      let name ← path.getLast?
      return ⟨path, ← d.members.extend path.dropLast (Members.openTable name)⟩
  | .element path => do
      let name ← path.getLast?
      return ⟨path, ← d.members.extend path.dropLast (Members.openElement name)⟩
  | .assignment path value => do
      return { d with members := ← d.members.extend d.path (Members.assign value path) }

end Draft

/-! ## Documents -/

/-- Every carriage return stands before a line feed. -/
def returnsPaired : List Char → Bool
  | [] => true
  | '\r' :: '\n' :: cs => returnsPaired cs
  | '\r' :: _ => false
  | _ :: cs => returnsPaired cs

/-- The characters without a mark of the byte order at their start. -/
def skipByteOrder : List Char → List Char
  | '\uFEFF' :: cs => cs
  | cs => cs

/-- The table of a document, or nothing if the text is none. -/
def read (text : String) : Option Value := do
  let cs := skipByteOrder text.toList
  if returnsPaired cs then
    let statements ← readStatements (cs.length + 1) cs
    let draft ← statements.foldlM Draft.add ⟨[], []⟩
    return .table (finished draft.members)
  else none

end QueryCanvas.Toml
