import QueryCanvas.Settings.Document

/-!
# Where settings are found

A document of settings is looked for in three places: where the environment says, in the working
directory, and below the directory for the settings of the user's programs. The first one that is
there counts; without any, every setting has its default.
-/

namespace QueryCanvas

variable {m : Type → Type}

namespace Settings

/-- The settings of a file. -/
def ofFile [Monad m] (host : Host m) (path : OsText) : m (Except SettingsError Settings) := do
  if ← host.isPresent path then
    match ← host.readText path with
    | .ok text => return ofText text
    | .error e => return .error (.unreadable e)
  else return .error (.fileNotFound path)

/-- The variable that names the file of the settings. -/
def fileVariable : String := "ERDQ_CONFIG"

/-- The file of the settings in the working directory. -/
def localFile : String := "erdq.toml"

/-- The directory for the settings of the user's programs. -/
def userDirectory (home? configHome? : Option String) : Option String :=
  match configHome?.filter Path.isAbsolute with
  | some directory => some directory
  | none => (home?.filter (· != "")).map (Path.join · ".config")

/-- The file of the settings below the directory for the user's programs. -/
def userFile (directory : String) : String :=
  Path.join (Path.join directory "erdq") "config.toml"

/-- The settings of the first place that has some: the file that the environment names, which must
be there, the working directory, and the directory for the user's programs. -/
def load [Monad m] (host : Host m) : m (Except SettingsError Settings) := do
  if let some path ← host.environment fileVariable then return ← ofFile host path
  if ← host.isPresent localFile then return ← ofFile host localFile
  let home? ← host.environment "HOME"
  let configHome? ← host.environment "XDG_CONFIG_HOME"
  if let some directory := userDirectory home? configHome? then
    if ← host.isPresent (userFile directory) then return ← ofFile host (userFile directory)
  return .ok {}

end Settings

end QueryCanvas
