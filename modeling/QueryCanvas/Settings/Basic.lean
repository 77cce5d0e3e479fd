import QueryCanvas.Canvas.Layout
import QueryCanvas.Export.Gateway
import QueryCanvas.Settings.Expansion

/-!
# Settings

The settings hold the addresses of the services, the destination of exports, the layout of the
canvas, and the level of the log. An address may refer to variables of the environment, which are
looked up when it is used.
-/

namespace QueryCanvas

variable {m : Type → Type}

/-- The services that have an address in the settings. -/
inductive Service where
  | data
  | api
deriving DecidableEq, Repr

/-- The setting of a service's address. -/
def Service.setting : Service → String
  | .data => "data_service"
  | .api => "api_service"

/-- Why there are no settings, or no address of a service. -/
inductive SettingsError where
  | fileNotFound (path : OsText)
  | unreadable (error : SystemError)
  | malformed
  | missingVariable (name : String)
  | missingService (service : Service)
deriving DecidableEq, Repr

/-- The text of a failure. -/
def SettingsError.message : SettingsError → String
  | .fileNotFound path => "Config file not found: " ++ path.shown
  | .unreadable error => "Failed to read config file: " ++ error.message
  | .malformed => "Failed to parse config file: no settings"
  | .missingVariable name => "Missing environment variable: " ++ name
  | .missingService service => "Service URL not configured: " ++ service.setting

/-- The addresses of the services, with references to variables. -/
structure ServiceSettings where
  dataService : Option String := none
  apiService : Option String := none
deriving DecidableEq, Repr

/-- Where exports go. -/
structure ExportSettings where
  directory : String := "."
  fileName : Option String := none
  clipboardCommand : Option (List String) := none
deriving DecidableEq, Repr

/-- The settings. -/
structure Settings where
  services : ServiceSettings := {}
  exports : ExportSettings := {}
  layout : GridLayout := {}
  logLevel : String := "info"

namespace Settings

/-- The address of a service as it is written in the settings. -/
def service? (s : Settings) : Service → Option String
  | .data => s.services.dataService
  | .api => s.services.apiService

/-- The address of a service with the values of its variables. -/
def serviceAddress (s : Settings) (value? : String → Option String) (service : Service) :
    Except SettingsError String :=
  match s.service? service with
  | none => .error (.missingService service)
  | some text =>
      match expand value? text with
      | .ok address => .ok address
      | .error name => .error (.missingVariable name)

/-- The values of variables in the environment. -/
def environmentValues [Monad m] (host : Host m) (names : List String) :
    m (List (String × String)) := do
  let values ← names.mapM fun name => do return (name, ← host.environment name)
  return values.filterMap fun (name, value) => value.map (name, ·)

/-- The address of a service, with the values that the environment has for its variables. -/
def addressOn [Monad m] (s : Settings) (host : Host m) (service : Service) :
    m (Except SettingsError String) := do
  let values ← environmentValues host (Expansion.references ((s.service? service).getD ""))
  return s.serviceAddress (values.lookup ·) service

end Settings

/-- Where exports go: the configured command is the clipboard, or else the first known one that is
installed, if there is one. -/
def ExportSettings.gatewayOn [Monad m] (s : ExportSettings) (host : Host m) :
    m (Except ExportError Gateway) := do
  match s.clipboardCommand with
  | some command =>
      return (ClipboardCommand.ofList command).map fun c => ⟨s.directory, s.fileName, some c⟩
  | none =>
      let clipboard ← ClipboardCommand.firstInstalled host ClipboardCommand.known
      return .ok ⟨s.directory, s.fileName, clipboard⟩

end QueryCanvas
