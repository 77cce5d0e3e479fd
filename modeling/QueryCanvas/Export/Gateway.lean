import QueryCanvas.Export.Error
import QueryCanvas.Host.Path
import QueryCanvas.Query.Document

/-!
# Files and clipboards

A gateway is where specifications are exported to: a directory with an optional file name, and an
optional clipboard. Both destinations receive the canonical text. A clipboard is a command that is
given the text on its input.
-/

namespace QueryCanvas

variable {m : Type → Type}

/-- A clipboard takes a text. -/
abbrev Clipboard (m : Type → Type) := String → m (Except ExportError Unit)

/-- A program with its arguments. -/
structure ClipboardCommand where
  program : String
  arguments : List String
deriving DecidableEq, Repr

namespace ClipboardCommand

/-- The command of a configured list. -/
def ofList : List String → Except ExportError ClipboardCommand
  | [] => .error (.clipboardUnavailable "empty clipboard command")
  | program :: arguments => .ok ⟨program, arguments⟩

/-- The commands that are tried when none is configured. -/
def known : List ClipboardCommand :=
  [⟨"pbcopy", []⟩, ⟨"wl-copy", []⟩, ⟨"xclip", ["-selection", "clipboard"]⟩,
   ⟨"xsel", ["--clipboard", "--input"]⟩, ⟨"clip.exe", []⟩]

/-- The system can find a program of that name. -/
def isInstalled [Monad m] (host : Host m) (program : String) : m Bool := do
  match ← host.runProgram "which" [program] "" with
  | .ok status => return status.isSuccess
  | .error _ => return false

/-- The first of the commands whose program is installed. -/
def firstInstalled [Monad m] (host : Host m) :
    List ClipboardCommand → m (Option ClipboardCommand)
  | [] => return none
  | c :: rest => do
      if ← isInstalled host c.program then return some c
      else firstInstalled host rest

/-- Give a text to the command. -/
def put [Monad m] (host : Host m) (c : ClipboardCommand) : Clipboard m := fun text => do
  match ← host.runProgram c.program c.arguments text with
  | .error e => return .error (.clipboardFailed e.message)
  | .ok status =>
      if status.isSuccess then return .ok ()
      else
        return .error (.clipboardFailed (c.program ++ " exited with " ++ status.message))

end ClipboardCommand

/-- Where specifications are exported to. -/
structure Gateway where
  directory : OsText
  fileName : Option String
  clipboard : Option ClipboardCommand
deriving DecidableEq, Repr

namespace Gateway

/-- Copy a specification to a clipboard, if there is one. -/
def copyTo [Monad m] (clipboard : Option (Clipboard m)) (spec : Specification) :
    m (Except ExportError Unit) :=
  match clipboard with
  | none => return .error (.clipboardUnavailable "no clipboard configured")
  | some put => put spec.canonicalText

/-- The clipboard of a gateway. -/
def clipboardOn [Monad m] (g : Gateway) (host : Host m) : Option (Clipboard m) :=
  g.clipboard.map (ClipboardCommand.put host)

/-- The path of the file for a specification. -/
def filePath (g : Gateway) (spec : Specification) : OsText :=
  g.directory.join (g.fileName.getD spec.fileName)

/-- Write a specification into the directory, which is created first. The path of the file is given
as it is shown. -/
def download [Monad m] (host : Host m) (g : Gateway) (spec : Specification) :
    m (Except ExportError String) := do
  match ← host.createDirectories g.directory with
  | .error e => return .error (.writeFailed g.directory e)
  | .ok () =>
      match ← host.writeText (g.filePath spec) spec.canonicalText with
      | .error e => return .error (.writeFailed (g.filePath spec) e)
      | .ok () => return .ok (g.filePath spec).shown

end Gateway

end QueryCanvas
