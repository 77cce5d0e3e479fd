import QueryCanvas.Command.Run

/-!
# The command line

The program runs an invocation on the system. It reads and writes files and the environment; it
starts no other programs and has no network, so that no clipboard and no service is found. Its paths
are texts.
-/

namespace QueryCanvas

/-- A code of the system stands for an error number: some operations give the number, others its
negative. -/
def isErrorNumber (number code : UInt32) : Bool :=
  code == number || code == -number

/-- A failure of the system. -/
def SystemError.ofIO : IO.Error → SystemError
  | .noFileOrDirectory _ _ _ => .notFound
  | .permissionDenied _ _ _ => .permissionDenied
  | .alreadyExists _ _ _ => .alreadyExists
  | .inappropriateType _ code _ =>
      if isErrorNumber 20 code then .notADirectory else .isADirectory
  | .invalidArgument file code details =>
      if isErrorNumber 36 code then .nameTooLong
      else .other (toString (IO.Error.invalidArgument file code details))
  | e => .other (toString e)

/-- The outcome of an operation of the system. -/
def outcome {α : Type} (operation : IO α) : IO (Except SystemError α) := do
  match ← operation.toBaseIO with
  | .ok x => return .ok x
  | .error e => return .error (SystemError.ofIO e)

/-- The text of a file. -/
def readTextFile (path : String) : IO (Except SystemError String) := do
  match ← outcome (IO.FS.readBinFile path) with
  | .error e => return .error e
  | .ok bytes =>
      match String.fromUTF8? bytes with
      | some text => return .ok text
      | none => return .error .notText

/-- Something is at the path: it can be resolved. -/
def isPathPresent (path : String) : IO Bool := do
  match ← outcome (IO.FS.realPath path) with
  | .ok _ => return true
  | .error _ => return false

/-- A directory is at the path: only a directory has itself as an entry. -/
def isDirectoryPresent (path : String) : IO Bool :=
  isPathPresent (path ++ "/.")

/-- Create a directory; one that is there is left alone. -/
def createDirectory (path : String) : IO (Except SystemError Unit) := do
  match ← outcome (IO.FS.createDir path) with
  | .ok () => return .ok ()
  | .error e => if ← isDirectoryPresent path then return .ok () else return .error e

/-- Create a directory and those above it that are not there, of which there are at most as many as
the fuel says. -/
def createDirectories : Nat → String → IO (Except SystemError Unit)
  | 0, _ => return .ok ()
  | fuel + 1, path => do
      if path = "" then return .ok ()
      match ← createDirectory path with
      | .error .notFound =>
          match Path.parent? path with
          | none => return .error (.other "failed to create whole tree")
          | some above =>
              match ← createDirectories fuel above with
              | .ok () => createDirectory path
              | .error e => return .error e
      | done => return done

/-- The system as a host. -/
def systemHost : Host IO where
  readText path := path.onText readTextFile
  isPresent path :=
    match path.text? with
    | some path => isPathPresent path
    | none => return false
  createDirectories path := path.onText fun path => createDirectories (path.length + 1) path
  writeText path text := path.onText fun path => outcome (IO.FS.writeFile path text)
  environment name := IO.getEnv name
  runProgram program _ _ := return .error (.other ("cannot start " ++ program))
  send _ := return .error "no network"
  printLine := IO.println
  reportLine := IO.eprintln

end QueryCanvas

/-- Do what the arguments ask for. -/
def main (arguments : List String) : IO UInt32 := do
  let status ← (QueryCanvas.Invocation.read arguments).run QueryCanvas.systemHost
  return status.toUInt32
