import QueryCanvas.Text.Alphanumeric

/-!
# References to variables in texts

A text is read from the left as a sequence of pieces: characters that stand for themselves, and
references to variables, written in braces after a dollar sign or as the longest name after it.
`join_pieces` says that the pieces spell the text. Expanding a text puts the values of the variables
in the places of the references; values are not read again.
-/

namespace QueryCanvas

/-- A piece of a text. An opened brace reaches to the next closing brace, or to the end. -/
inductive Piece where
  | literal (c : Char)
  | bare (name : List Char)
  | braced (name : List Char) (closed : Bool)
deriving DecidableEq, Repr

namespace Piece

/-- How a piece is written. -/
def spelling : Piece → List Char
  | .literal c => [c]
  | .bare name => '$' :: name
  | .braced name closed => '$' :: '{' :: (name ++ if closed then ['}'] else [])

/-- The variable that a piece refers to. -/
def reference? : Piece → Option String
  | .literal _ => none
  | .bare name => some (String.ofList name)
  | .braced name _ => some (String.ofList name)

end Piece

namespace Expansion

/-- A character of a name that stands without braces. -/
def isNameChar (c : Char) : Bool :=
  Text.isAlphanumeric c || c == '_'

/-- What follows an opened brace: its name, and the characters after the closing brace, if it is
closed. -/
def splitBrace : List Char → List Char × Option (List Char)
  | [] => ([], none)
  | c :: cs =>
      if c = '}' then ([], some cs)
      else
        let (name, rest) := splitBrace cs
        (c :: name, rest)

/-- The text after a closed brace is shorter. -/
theorem length_of_splitBrace {cs name rest : List Char} (h : splitBrace cs = (name, some rest)) :
    rest.length < cs.length := by
  induction cs generalizing name with
  | nil => simp [splitBrace] at h
  | cons c cs ih =>
      rw [splitBrace] at h
      split at h
      · cases h; simp
      · have := ih (Prod.ext rfl (Prod.ext_iff.mp h).2)
        simp only [List.length_cons]
        omega

/-- The pieces of the characters of a text. -/
def pieces : List Char → List Piece
  | [] => []
  | c :: cs =>
      if c = '$' then
        match cs with
        | [] => [.literal '$']
        | d :: ds =>
            if d = '{' then
              match h : splitBrace ds with
              | (name, none) => [.braced name false]
              | (name, some rest) =>
                  have := length_of_splitBrace h
                  .braced name true :: pieces rest
            else if isNameChar d then
              have := (List.dropWhile_sublist isNameChar (l := ds)).length_le
              .bare (d :: ds.takeWhile isNameChar) :: pieces (ds.dropWhile isNameChar)
            else .literal '$' :: pieces (d :: ds)
      else .literal c :: pieces cs
termination_by cs => cs.length
decreasing_by all_goals (simp_wf <;> omega)

/-- The text that pieces spell. -/
def join (ps : List Piece) : List Char :=
  ps.flatMap Piece.spelling

/-- A brace is spelled by its name and what follows it. -/
theorem splitBrace_spelling (cs : List Char) :
    (splitBrace cs).1 ++
      (match (splitBrace cs).2 with
        | none => []
        | some rest => '}' :: rest) = cs := by
  induction cs with
  | nil => rfl
  | cons c cs ih =>
      rw [splitBrace]
      split
      · next h => simp [h]
      · simpa using ih

/-- The pieces of a text spell it. -/
theorem join_pieces (cs : List Char) : join (pieces cs) = cs := by
  fun_induction pieces cs with
  | case1 => rfl
  | case2 => rfl
  | case3 ds name hs =>
      have hds := splitBrace_spelling ds
      simp_all [join, Piece.spelling]
  | case4 ds name rest hs _ ih =>
      have hds := splitBrace_spelling ds
      simp only [join] at ih
      simp_all [join, Piece.spelling]
  | case5 d ds hd hn _ ih =>
      simp only [join] at ih
      simp [join, Piece.spelling, ih]
  | case6 d ds hd hn ih =>
      simp only [join] at ih
      simp [join, Piece.spelling, ih]
  | case7 c cs h ih =>
      simp only [join] at ih
      simp [join, Piece.spelling, ih]

/-- The variables that a text refers to, from the left. -/
def references (text : String) : List String :=
  (pieces text.toList).filterMap Piece.reference?

/-- The characters that pieces stand for, or the first variable that has no value. -/
def fill (value? : String → Option String) : List Piece → Except String (List Char)
  | [] => .ok []
  | piece :: rest => do
      let part ←
        match piece.reference? with
        | none => .ok piece.spelling
        | some name =>
            match value? name with
            | some value => .ok value.toList
            | none => .error name
      let others ← fill value? rest
      return part ++ others

end Expansion

/-- The text with the values of its variables, or the first variable that has none. -/
def expand (value? : String → Option String) (text : String) : Except String String :=
  (Expansion.fill value? (Expansion.pieces text.toList)).map String.ofList

end QueryCanvas
