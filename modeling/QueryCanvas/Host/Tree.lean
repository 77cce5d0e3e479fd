import QueryCanvas.Host.Basic
import QueryCanvas.Host.Path

/-!
# A tree of files

Directories and files held in memory. A path is walked name by name from the root or from the
working directory; every name but the last must be that of a directory, and a slash at the end asks
for one. Failures are those of a file system without links in which everything is permitted.
-/

namespace QueryCanvas

/-- A file with its bytes, which may be marked as a program, or a directory. -/
inductive FileTree where
  | file (content : ByteArray) (executable : Bool)
  | directory (entries : List (String × FileTree))

/-- The names on the way from the root. -/
abbrev Location := List String

namespace FileTree

/-- The empty directory. -/
def empty : FileTree :=
  .directory []

/-- It is a directory. -/
def isDirectory : FileTree → Bool
  | .directory _ => true
  | .file _ _ => false

/-- What an entry of a directory is. -/
def entry? (name : String) : FileTree → Option FileTree
  | .directory entries => entries.lookup name
  | .file _ _ => none

/-- What is at a location. -/
def at? : Location → FileTree → Option FileTree
  | [], t => some t
  | name :: names, t => (t.entry? name).bind (at? names)

/-- Entries with one put in its place, or added. -/
def putEntry (name : String) (t : FileTree) (entries : List (String × FileTree)) :
    List (String × FileTree) :=
  if (entries.lookup name).isSome then
    entries.map fun (other, old) => (other, if other = name then t else old)
  else entries ++ [(name, t)]

/-- The tree with something put at a location. Directories that lack on the way are added. -/
def put (new : FileTree) : Location → FileTree → FileTree
  | [], _ => new
  | name :: names, .directory entries =>
      .directory (putEntry name (put new names ((entries.lookup name).getD empty)) entries)
  | _ :: _, t => t

/-- A directory with something put at each of the locations. -/
def ofList (placed : List (Location × FileTree)) : FileTree :=
  placed.foldl (fun t (place, new) => put new place t) empty

/-! ## Walking -/

/-- The longest name, in bytes. -/
def nameLimit : Nat := 255

/-- The bytes of a path stay below this number. -/
def pathLimit : Nat := 4096

/-- The names of a path, where an empty name asks for a directory. -/
def names (path : String) : List String :=
  (Path.pieces path.toList).map String.ofList

/-- Where walking a path begins. -/
def start (working : Location) (path : String) : Location :=
  if Path.isAbsolute path then [] else working

/-- Walk names from a location. -/
def walk (t : FileTree) (place : Location) : List String → Except SystemError Location
  | [] => .ok place
  | name :: names =>
      match t.at? place with
      | none => .error .notFound
      | some (.file _ _) => .error .notADirectory
      | some (.directory entries) =>
          if name = "" ∨ name = "." then walk t place names
          else if name = ".." then walk t place.dropLast names
          else if nameLimit < name.utf8ByteSize then .error .nameTooLong
          else if (entries.lookup name).isSome then walk t (place ++ [name]) names
          else .error .notFound

/-- A path that the system takes. -/
def checkPath (path : String) : Except SystemError Unit :=
  if path.toList.contains '\x00' then
    .error (.other "file name contained an unexpected NUL byte")
  else if path = "" then .error .notFound
  else if pathLimit ≤ path.utf8ByteSize then .error .nameTooLong
  else .ok ()

/-- The location of a path, and what is there. -/
def find (t : FileTree) (working : Location) (path : String) :
    Except SystemError (Location × FileTree) := do
  checkPath path
  let place ← t.walk (start working path) (names path)
  match t.at? place with
  | some found => return (place, found)
  | none => throw .notFound

/-- The text of a file. -/
def readText (t : FileTree) (working : Location) (path : String) : Except SystemError String := do
  match ← t.find working path with
  | (_, .directory _) => throw .isADirectory
  | (_, .file content _) =>
      match String.fromUTF8? content with
      | some text => return text
      | none => throw .notText

/-- Something is at the path. -/
def isPresent (t : FileTree) (working : Location) (path : String) : Bool :=
  match t.find working path with
  | .ok _ => true
  | .error _ => false

/-- A directory is at the path. -/
def hasDirectory (t : FileTree) (working : Location) (path : String) : Bool :=
  match t.find working path with
  | .ok (_, found) => found.isDirectory
  | .error _ => false

/-! ## Changing -/

/-- The directory that a path is in, and its last name; nothing for the root. -/
def findParent (t : FileTree) (working : Location) (path : String) :
    Except SystemError (Option (Location × String)) := do
  checkPath path
  match ((names path).reverse.dropWhile (· = "")) with
  | [] => return none
  | last :: before =>
      let place ← t.walk (start working path) (before.reverse ++ [""])
      return some (place, last)

/-- Create a directory in one that is there. -/
def createDirectory (t : FileTree) (working : Location) (path : String) :
    Except SystemError FileTree := do
  match ← t.findParent working path with
  | none => throw .alreadyExists
  | some (place, name) =>
      if name = "." ∨ name = ".." ∨ (t.at? (place ++ [name])).isSome then throw .alreadyExists
      else if nameLimit < name.utf8ByteSize then throw .nameTooLong
      else return put empty (place ++ [name]) t

/-- Create a directory and those above it that are not there. One that is there is left alone. -/
def createDirectories (working : Location) : Nat → FileTree → String →
    Except SystemError FileTree
  | 0, t, _ => .ok t
  | fuel + 1, t, path =>
      if path = "" then .ok t
      else
        let create (t : FileTree) : Except SystemError FileTree :=
          match t.createDirectory working path with
          | .ok t => .ok t
          | .error e => if t.hasDirectory working path then .ok t else .error e
        match t.createDirectory working path with
        | .ok t => .ok t
        | .error .notFound =>
            match Path.parent? path with
            | none => .error (.other "failed to create whole tree")
            | some above => (createDirectories working fuel t above).bind create
        | .error _ => create t

/-- Write a file. One that is there keeps its mark of a program. -/
def writeBytes (t : FileTree) (working : Location) (path : String) (content : ByteArray) :
    Except SystemError FileTree := do
  match ← t.findParent working path with
  | none => throw .isADirectory
  | some (place, name) =>
      if name = "." ∨ name = ".." ∨ path.endsWith "/" then throw .isADirectory
      else if nameLimit < name.utf8ByteSize then throw .nameTooLong
      else
        match t.at? (place ++ [name]) with
        | some (.directory _) => throw .isADirectory
        | some (.file _ executable) => return put (.file content executable) (place ++ [name]) t
        | none => return put (.file content false) (place ++ [name]) t

/-! ## Listing -/

mutual

/-- The files of the tree with their paths, each begun by the given text. -/
def listFiles (above : String) : FileTree → List (String × ByteArray)
  | .file content _ => [(above, content)]
  | .directory entries => listEntries above entries

/-- The files of the entries of a directory. -/
def listEntries (above : String) : List (String × FileTree) → List (String × ByteArray)
  | [] => []
  | (name, t) :: entries => listFiles (Path.join above name) t ++ listEntries above entries

end

end FileTree

end QueryCanvas
