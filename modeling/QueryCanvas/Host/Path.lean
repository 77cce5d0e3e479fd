import QueryCanvas.Host.OsText

/-!
# Paths

The components of a path are divided by slashes. Empty components and points between components
carry no meaning; a point at the very start is a component of its own. That is so for the bytes of
the system and for texts; an `Alphabet` is what paths are spelled in.
-/

namespace QueryCanvas

namespace Path

/-- The marks of paths. -/
class Alphabet (α : Type) where
  slash : α
  point : α
  slash_ne_point : slash ≠ point

instance : Alphabet Char := ⟨'/', '.', by decide⟩

instance : Alphabet UInt8 := ⟨0x2F, 0x2E, by decide⟩

open Alphabet

section Spelled

variable {α : Type} [DecidableEq α] [Alphabet α]

/-- The parts of a path between slashes. -/
def pieces : List α → List (List α)
  | [] => [[]]
  | c :: cs =>
      match pieces cs with
      | [] => [[c]]
      | first :: rest => if c = slash then [] :: first :: rest else (c :: first) :: rest

/-- The path starts at the root. -/
def startsAtRoot (path : List α) : Bool :=
  path.head? == some slash

/-- A path below a directory; an absolute path replaces the directory. -/
def joined (directory path : List α) : List α :=
  if startsAtRoot path then path
  else if directory = [] ∨ directory.getLast? = some slash then directory ++ path
  else directory ++ slash :: path

/-- A piece that carries no meaning after the start of a path. -/
def isIdle (piece : List α) : Bool :=
  piece.isEmpty || piece == [point]

/-- The piece that leads to the directory above. -/
def up : List α :=
  [point, point]

/-- The pieces of a path without those at its end that carry no meaning. The first piece stays. -/
def trimmed (path : List α) : List (List α) :=
  match pieces path with
  | [] => []
  | first :: rest => first :: (rest.reverse.dropWhile isIdle).reverse

/-- The spelling of pieces, where a single empty piece stands for the root. -/
def ofPieces (ps : List (List α)) : List α :=
  if ps = [[]] then [slash] else [slash].intercalate ps

/-- The path without its last component, nothing for the root and for the empty path. -/
def above? (path : List α) : Option (List α) :=
  match (trimmed path).reverse with
  | [] => none
  | [only] => if only.isEmpty then none else some []
  | _ :: before =>
      match before.reverse with
      | [] => none
      | first :: rest => some (ofPieces (first :: (rest.reverse.dropWhile isIdle).reverse))

/-- The last component, if it is a name. -/
def name? (path : List α) : Option (List α) :=
  match (trimmed path).getLast? with
  | some piece => if isIdle piece || piece == up then none else some piece
  | none => none

end Spelled

/-- A text is an absolute path. -/
def isAbsolute (path : String) : Bool :=
  startsAtRoot path.toList

/-- A path below a directory, as texts. -/
def join (directory path : String) : String :=
  String.ofList (joined directory.toList path.toList)

/-- The path without its last component, as texts. -/
def parent? (path : String) : Option String :=
  (above? path.toList).map String.ofList

/-- The last component of a text, if it is a name. -/
def fileName? (path : String) : Option String :=
  (name? path.toList).map String.ofList

end Path

namespace OsText

/-- A path below a directory. -/
def join (directory path : OsText) : OsText :=
  ⟨Path.joined directory.bytes path.bytes⟩

/-- The path without its last component. -/
def parent? (path : OsText) : Option OsText :=
  (Path.above? path.bytes).map OsText.mk

/-- The last component, if it is a name. -/
def fileName? (path : OsText) : Option OsText :=
  (Path.name? path.bytes).map OsText.mk

end OsText

end QueryCanvas
