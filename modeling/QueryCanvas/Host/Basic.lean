import QueryCanvas.Host.OsText

/-!
# The surroundings of the program

What the program asks of the system that it runs on: files, environment variables, other programs,
requests over the network, and its two output streams. A `Host` answers in a monad of its own
choice. Paths are bytes of the system.
-/

namespace QueryCanvas

/-- Why an operation of the system failed. -/
inductive SystemError where
  | notFound
  | permissionDenied
  | alreadyExists
  | notADirectory
  | isADirectory
  | nameTooLong
  | notAProgram
  | tooManyLinks
  | notText
  | other (reason : String)
deriving DecidableEq, Repr

/-- The text of a failure. -/
def SystemError.message : SystemError → String
  | .notFound => "No such file or directory (os error 2)"
  | .permissionDenied => "Permission denied (os error 13)"
  | .alreadyExists => "File exists (os error 17)"
  | .notADirectory => "Not a directory (os error 20)"
  | .isADirectory => "Is a directory (os error 21)"
  | .nameTooLong => "File name too long (os error 36)"
  | .notAProgram => "Exec format error (os error 8)"
  | .tooManyLinks => "Too many levels of symbolic links (os error 40)"
  | .notText => "stream did not contain valid UTF-8"
  | .other reason => reason

/-- The failure for a name that is no text, where names have to be texts. -/
def SystemError.noTextName : SystemError :=
  .other "Invalid or incomplete multibyte or wide character (os error 84)"

/-- How another program ended. -/
inductive ExitStatus where
  | code (value : Nat)
  | signal (number : Nat) (name : String)
deriving DecidableEq, Repr

namespace ExitStatus

/-- The program ended well. -/
def isSuccess : ExitStatus → Bool
  | .code 0 => true
  | _ => false

/-- The text of a status. -/
def message : ExitStatus → String
  | .code value => "exit status: " ++ toString value
  | .signal number name => "signal: " ++ toString number ++ " (" ++ name ++ ")"

end ExitStatus

/-- A request over the network: without a body it asks, with a body it sends that JSON text. -/
structure Request where
  url : String
  body : Option String
deriving DecidableEq, Repr

/-- The answer to a request. -/
structure Response where
  status : Nat
  body : String
deriving DecidableEq, Repr

/-- The surroundings of the program. -/
structure Host (m : Type → Type) where
  readText : OsText → m (Except SystemError String)
  isPresent : OsText → m Bool
  createDirectories : OsText → m (Except SystemError Unit)
  writeText : OsText → String → m (Except SystemError Unit)
  environment : String → m (Option String)
  runProgram : String → List String → String → m (Except SystemError ExitStatus)
  send : Request → m (Except String Response)
  printLine : String → m Unit
  reportLine : String → m Unit

/-- An operation on a path where names have to be texts. -/
def OsText.onText {m : Type → Type} [Monad m] {α : Type} (path : OsText)
    (operation : String → m (Except SystemError α)) : m (Except SystemError α) :=
  match path.text? with
  | some text => operation text
  | none => return .error .noTextName

end QueryCanvas
