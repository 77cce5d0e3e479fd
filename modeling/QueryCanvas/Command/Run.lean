import QueryCanvas.Catalog.Client
import QueryCanvas.Command.Help
import QueryCanvas.Script.Replay
import QueryCanvas.Settings.Location

/-!
# Running commands

A command runs on a host and ends with a status: zero for success, one for a failure, and two for
arguments that make no sense. What was asked for goes to the output; warnings, failures and
notifications are reported.
-/

namespace QueryCanvas

variable {m : Type → Type} [Monad m]

/-- Why there is no session to work with. -/
inductive CommandError where
  | unreadableScript (path : OsText) (error : SystemError)
  | malformedScript (path : OsText) (error : Json.ReadError)
  | settings (error : SettingsError)
  | catalog (error : CatalogError)
  | unknownTable (name : String)
deriving DecidableEq, Repr

/-- The text of a failure. -/
def CommandError.message : CommandError → String
  | .unreadableScript path error =>
      "'" ++ path.shown ++ "': Failed to read script: " ++ error.message
  | .malformedScript path error =>
      "'" ++ path.shown ++ "': Failed to parse script: " ++ error.message
  | .settings error => error.message
  | .catalog error => error.message
  | .unknownTable name => unknownTableMessage name

namespace Command

/-- The status of a command that succeeded. -/
def succeeded : Nat := 0

/-- The status of a command that failed. -/
def failed : Nat := 1

/-- The status of arguments that make no sense. -/
def misused : Nat := 2

/-- The address of a service: the given one, or that of the settings. -/
def address (host : Host m) (settings : Settings) (service : Service) (given : Option String) :
    m (Except SettingsError String) :=
  match given with
  | some base => return .ok base
  | none => settings.addressOn host service

/-- The tables of a data source. -/
def fetchTables (host : Host m) (settings : Settings) (dataSource : String)
    (dataService : Option String) : m (Except CommandError (List Table)) := do
  match ← address host settings .data dataService with
  | .error e => return .error (.settings e)
  | .ok base =>
      let found ← catalogAt host base dataSource
      return found.mapError .catalog

/-- The script of a file. -/
def readScript (host : Host m) (path : OsText) : m (Except CommandError Script) := do
  match ← host.readText path with
  | .error e => return .error (.unreadableScript path e)
  | .ok text => return (Script.parse text).mapError (.malformedScript path)

/-- The tables that a script does not declare come from the data source, if one is given. It is
asked only if there are such tables. -/
def catalogFor (host : Host m) (settings : Settings) (script : Script)
    (dataSource : Option String) : m (Except CommandError (List Table)) :=
  match dataSource with
  | none => return .ok []
  | some id =>
      if script.undeclaredTables.isEmpty then return .ok []
      else fetchTables host settings id none

/-- The session after a replay on a fresh one. -/
def replayed (settings : Settings) (script : Script) (catalog : List Table) :
    Except CommandError Session :=
  match script.replay (Session.start settings.layout) catalog with
  | (r, none) => .ok r.session
  | (_, some name) => .error (.unknownTable name)

/-- The session that a script file describes. -/
def loadSession (host : Host m) (settings : Settings) (path : OsText)
    (dataSource : Option String) : m (Except CommandError Session) := do
  match ← readScript host path with
  | .error e => return .error e
  | .ok script =>
      match ← catalogFor host settings script dataSource with
      | .error e => return .error e
      | .ok catalog => return replayed settings script catalog

/-- Report a failure. -/
def fail (host : Host m) (message : String) : m Nat := do
  host.reportLine ("Error: " ++ message)
  return failed

/-- The line of a notification. -/
def notificationLine (n : Notification) : String :=
  match n.level with
  | .success => n.message
  | .error => "Error: " ++ n.message

/-- The status that notifications stand for: one error among them is a failure. -/
def notificationStatus (ns : List Notification) : Nat :=
  if ns.any (·.level == .error) then failed else succeeded

/-- Report the notifications of a session. -/
def reportNotifications (host : Host m) (s : Session) : m Nat := do
  let ns := s.takeNotifications.1
  ns.forM fun n => host.reportLine (notificationLine n)
  return notificationStatus ns

/-! ## Listing tables -/

/-- What follows a field in a listing: whether it is a key. -/
def keyMark (f : Field) : String :=
  if f.isPrimaryKey then " [PK]" else if f.isForeignKey then " [FK]" else ""

/-- The line of a field in a listing. -/
def fieldLine (f : Field) : String :=
  "  " ++ padded 24 f.name ++ " " ++ f.type.name ++ keyMark f

/-- The lines of a table in a listing. -/
def tableLines (t : Table) : List String :=
  t.name :: t.fields.map fieldLine

/-- List the tables of a data source. -/
def listTables (host : Host m) (settings : Settings) (dataSource : String)
    (dataService : Option String) : m Nat := do
  match ← fetchTables host settings dataSource dataService with
  | .error e => fail host e.message
  | .ok found =>
      let lines := if found.isEmpty then ["No tables found."] else found.flatMap tableLines
      lines.forM host.printLine
      return succeeded

/-! ## Compiling -/

/-- The warnings about what was compiled. -/
def warnings (c : Compiled) : List String :=
  (if c.specification.isEmpty then
    ["warning: no fields are configured; the specification selects nothing"]
  else []) ++
    c.dropped.map fun d =>
      "warning: connection " ++ toString d.index ++ " ignored: " ++ d.reason.message

/-- The gateway that writes to a path: into the directory above, under the last component as it is
shown. A path that ends in no name leaves the name of the file open. -/
def gatewayTo (path : OsText) : Gateway :=
  ⟨path.parent?.getD ".", path.fileName?.map OsText.shown, none⟩

/-- Bring the specification to its file, or to the output. Nothing is given if that failed, with the
session that holds the notification. -/
def deliver (host : Host m) (s : Session) (output : Option OsText) : m (Bool × Session) :=
  match output with
  | some path => do
      let (saved, s) ← s.download host (gatewayTo path)
      return (saved.isSome, s)
  | none => do
      host.printLine s.render.canonicalText
      return (true, s)

/-- Compile a session: warn, deliver the specification, and copy it if that is asked for. -/
def compileSession (host : Host m) (settings : Settings) (s : Session) (output : Option OsText)
    (copy : Bool) : m Nat := do
  (warnings s.compiled).forM host.reportLine
  let (delivered, s) ← deliver host s output
  if !delivered || !copy then reportNotifications host s
  else
    match ← settings.exports.gatewayOn host with
    | .error e => fail host e.message
    | .ok gateway =>
        let (_, s) ← s.copy (gateway.clipboardOn host)
        reportNotifications host s

/-- Compile a script. -/
def compileScript (host : Host m) (settings : Settings) (script : OsText) (output : Option OsText)
    (copy : Bool) (dataSource : Option String) : m Nat := do
  match ← loadSession host settings script dataSource with
  | .error e => fail host e.message
  | .ok s => compileSession host settings s output copy

/-! ## Submitting -/

/-- Report settings that cannot be used. -/
def failSettings (host : Host m) (e : SettingsError) : m Nat := do
  host.reportLine ("Configuration error: " ++ e.message)
  return failed

/-- Submit what a script describes. -/
def submitScript (host : Host m) (settings : Settings) (script : OsText)
    (dataSource queryType : String) (apiService : Option String) : m Nat := do
  match ← address host settings .api apiService with
  | .error e => failSettings host e
  | .ok base =>
      match ← loadSession host settings script (some dataSource) with
      | .error e => fail host e.message
      | .ok s =>
          let (_, s) ←
            s.openExport.createQuery (queryServiceAt host base) dataSource queryType
          reportNotifications host s

/-! ## Invocations -/

/-- Run a command with its settings. -/
def run (host : Host m) (settings : Settings) : Command → m Nat
  | .tables dataSource dataService => listTables host settings dataSource dataService
  | .compile script output copy dataSource =>
      compileScript host settings script output copy dataSource
  | .submit script dataSource queryType apiService =>
      submitScript host settings script dataSource queryType apiService

end Command

/-- Do what an invocation asks for. -/
def Invocation.run (host : Host m) : Invocation → m Nat
  | .help subject => do
      host.printLine (Command.helpText subject)
      return Command.succeeded
  | .version => do
      host.printLine (Command.programName ++ " " ++ Command.programVersion)
      return Command.succeeded
  | .misuse => do
      host.reportLine (Command.helpText .program)
      return Command.misused
  | .call config command => do
      let settings ←
        match config with
        | some path => Settings.ofFile host path
        | none => Settings.load host
      match settings with
      | .error e => Command.failSettings host e
      | .ok settings => command.run host settings

end QueryCanvas
