import QueryCanvas.Host.Tree

/-!
# A host in memory

A machine is a tree of files with a working directory, an environment, and what was written to the
two output streams. With programs and a network it is a host whose operations are functions of the
machine, so that what a command does can be computed and reasoned about. The names of its files are
texts.
-/

namespace QueryCanvas

/-- The state of a host in memory. -/
structure Machine where
  files : FileTree
  working : Location
  environment : List (String × String)
  printed : String := ""
  reported : String := ""

/-- What programs do on a machine: a program is run with its arguments and its input. -/
abbrev Programs := String → List String → String → StateM Machine (Except SystemError ExitStatus)

/-- How requests are answered. -/
abbrev Network := Request → Except String Response

namespace Machine

/-- A machine without programs fails to find any. -/
def noPrograms : Programs := fun _ _ _ => return .error .notFound

/-- A network that reaches nothing. -/
def unreachable : Network := fun _ => .error "error sending request"

/-- The value of a variable: what follows its name and an equals sign in an entry of the
environment. -/
def value? (m : Machine) (name : String) : Option String :=
  if name = "" then none
  else m.environment.findSome? fun (n, value) =>
    let entry := n.toList ++ '=' :: value.toList
    let start := name.toList ++ ['=']
    if start.isPrefixOf entry then some (String.ofList (entry.drop start.length)) else none

/-- The text of a file that is marked as a program. -/
def programText (m : Machine) (path : String) : Except SystemError String := do
  match ← m.files.find m.working path with
  | (_, .file _ true) => m.files.readText m.working path
  | _ => throw .permissionDenied

/-- The program is there: it is built in, or a file that is marked as a program. -/
def checkProgram (builtIn : String → Bool) (m : Machine) (path : String) :
    Except SystemError Unit := do
  if !builtIn path then discard <| m.programText path

/-- A blank in the first line of a script. -/
def isLineBlank (c : Char) : Bool :=
  c == ' ' || c == '\t'

/-- How many characters of a script may hold the name of its interpreter. -/
def headLimit : Nat := 256

/-- The path of the interpreter that the first line of a script names, and the argument after it. A
line ends with a line feed, a zero character or the script. Blanks before a line feed are dropped,
and before it the path must not be empty. -/
def interpreter? (script : String) : Option (String × List String) :=
  match script.toList.take headLimit with
  | '#' :: '!' :: head =>
      let line := head.takeWhile fun c => c != '\n' && c != '\x00'
      let ended := (head.drop line.length).head? == some '\n'
      let line := if ended then (line.reverse.dropWhile isLineBlank).reverse else line
      let text := line.dropWhile isLineBlank
      let path := text.takeWhile (!isLineBlank ·)
      let rest := text.dropWhile (!isLineBlank ·)
      let cut := line.length + 2 = headLimit ∧ rest.isEmpty
      if (ended ∧ path.isEmpty) ∨ cut then none
      else
        let argument := String.ofList (rest.dropWhile isLineBlank)
        some (String.ofList path, if rest.isEmpty then [] else [argument])
  | _ => none

/-- The program that is started at a path, with its arguments: it is built in, or the interpreter of
the script there is started with the path as an argument. That may be a script again, as often as
the number says. -/
def started (builtIn : String → Bool) (m : Machine) :
    Nat → String → List String → Except SystemError (String × List String)
  | depth, path, arguments => do
      if builtIn path then return (path, arguments)
      match interpreter? (← m.programText path) with
      | none => throw .notAProgram
      | some (interpreter, first) =>
          if interpreter = "" then throw .permissionDenied
          m.checkProgram builtIn interpreter
          match depth with
          | 0 => throw .tooManyLinks
          | depth + 1 => started builtIn m depth interpreter (first ++ path :: arguments)

/-- How often the interpreter of a script may be a script. -/
def scriptLimit : Nat := 5

/-- The first result of a check on several paths. A path where nothing is, or something that must
not be run, is passed over, and any other failure ends the search. A search that finds nothing
reports that something must not be run, if it met such, and else the failure of its last path. -/
def firstPassing {α : Type} (check : String → Except SystemError α) :
    SystemError → List String → Except SystemError α
  | last, [] => .error last
  | last, path :: paths =>
      match check path with
      | .ok found => .ok found
      | .error .permissionDenied => firstPassing check .permissionDenied paths
      | .error .notFound => firstPassing check (passedOver last .notFound) paths
      | .error .notADirectory => firstPassing check (passedOver last .notADirectory) paths
      | .error e => .error e
where
  /-- The failure to report after another path that lacks the program. -/
  passedOver (last e : SystemError) : SystemError :=
    if last = .permissionDenied then last else e

/-- The result of a check on the path of a program: on its name if that has a slash, else on the
paths of that name in the directories of the search path, which has a value of its own where it is
not set. -/
def searched {α : Type} (check : String → Except SystemError α) (m : Machine) (name : String) :
    Except SystemError α :=
  if name = "" then .error .notFound
  else if name.toList.contains '/' then check name
  else
    let directories := ((m.value? "PATH").getD "/bin:/usr/bin").splitOn ":"
    firstPassing check .notFound (directories.map (Path.join · name))

/-- The program of that name is there. -/
def hasProgram (builtIn : String → Bool) (m : Machine) (name : String) : Bool :=
  (searched (m.checkProgram builtIn) m name).isOk

/-- The built-in program that is started for a name and arguments, with its own arguments. -/
def start (builtIn : String → Bool) (m : Machine) (name : String) (arguments : List String) :
    Except SystemError (String × List String) :=
  if (name :: arguments).any (·.toList.contains '\x00') then
    .error (.other "nul byte found in provided data")
  else searched (m.started builtIn scriptLimit · arguments) m name

/-- Change the files, if that succeeds. -/
def change (f : FileTree → Except SystemError FileTree) :
    StateM Machine (Except SystemError Unit) := fun m =>
  match f m.files with
  | .ok files => (.ok (), { m with files := files })
  | .error e => (.error e, m)

/-- The host of a machine with programs and a network. -/
def host (programs : Programs) (network : Network) : Host (StateM Machine) where
  readText path := path.onText fun path m => (m.files.readText m.working path, m)
  isPresent path := fun m => (path.text?.any (m.files.isPresent m.working), m)
  createDirectories path := path.onText fun path m =>
    change (FileTree.createDirectories m.working (path.length + 1) · path) m
  writeText path text := path.onText fun path m =>
    change (·.writeBytes m.working path text.toUTF8) m
  environment name := fun m => (m.value? name, m)
  runProgram := programs
  send request := fun m => (network request, m)
  printLine text := fun m => ((), { m with printed := m.printed ++ text ++ "\n" })
  reportLine text := fun m => ((), { m with reported := m.reported ++ text ++ "\n" })

end Machine

end QueryCanvas
