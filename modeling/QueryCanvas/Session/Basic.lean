import QueryCanvas.Export.Gateway
import QueryCanvas.Export.Submission
import QueryCanvas.Fields.Store

/-!
# Editor sessions

The state behind one open editor. Every gesture of the user is one transition. The specification is
never stored; it is rendered from the canvas and the configurations each time. Exports do not change
what is edited: a failed one becomes a notification.
-/

namespace QueryCanvas

variable {m : Type → Type}

/-- How a notification is shown. -/
inductive NotificationLevel where
  | success
  | error
deriving DecidableEq, Repr

/-- A message to the user. -/
structure Notification where
  level : NotificationLevel
  message : String
deriving DecidableEq, Repr

/-- The state of an editor. -/
structure Session where
  canvas : Canvas
  fields : FieldConfigs
  exportOpen : Bool
  notifications : List Notification

namespace Session

/-- A fresh session. -/
def start (layout : GridLayout) : Session :=
  ⟨Canvas.empty layout, OrderedMap.empty, false, []⟩

/-- Place a table on the canvas. -/
def addTable (s : Session) (table : Table) : NodeId × Session :=
  let (id, canvas) := s.canvas.addTable table
  (id, { s with canvas := canvas })

/-- Connect two handles. Nothing happens if the connection is refused; otherwise its place among
the connections is given. -/
def connect (s : Session) (source target : String) : Option Nat × Session :=
  match s.canvas.connect source target with
  | .ok canvas => (some s.canvas.connections.length, { s with canvas := canvas })
  | .error _ => (none, s)

/-- Open the panel of a field. -/
def openPanel (s : Session) (key : FieldKey) : Panel :=
  s.fields.openPanel key

/-- Save a panel. -/
def savePanel (s : Session) (panel : Panel) : Session :=
  { s with fields := s.fields.save panel }

/-- The compiled state. -/
def compiled (s : Session) : Compiled :=
  compileCanvas s.canvas s.fields

/-- The specification of the current state. -/
def render (s : Session) : Specification :=
  s.compiled.specification

/-- Open the export panel. -/
def openExport (s : Session) : Session :=
  { s with exportOpen := true }

/-- Close the export panel. -/
def closeExport (s : Session) : Session :=
  { s with exportOpen := false }

/-- Queue a notification. -/
def notify (s : Session) (level : NotificationLevel) (message : String) : Session :=
  { s with notifications := s.notifications ++ [⟨level, message⟩] }

/-- Take all notifications out of the queue. -/
def takeNotifications (s : Session) : List Notification × Session :=
  (s.notifications, { s with notifications := [] })

/-- The session after a copy with the given outcome. -/
def afterCopy (s : Session) : Except ExportError Unit → Bool × Session
  | .ok () => (true, s.notify .success "Copied to clipboard")
  | .error e => (false, s.notify .error e.message)

/-- The session after a download with the given outcome. -/
def afterDownload (s : Session) : Except ExportError String → Option String × Session
  | .ok path => (some path, s.notify .success ("Saved " ++ path))
  | .error e => (none, s.notify .error e.message)

/-- The session after a submission with the given outcome. -/
def afterSubmission (s : Session) : Except SubmitError Unit → Bool × Session
  | .ok () => (true, s.closeExport.notify .success "Query created successfully")
  | .error e => (false, s.closeExport.notify .error e.userMessage)

/-- Copy the rendered specification to a clipboard. -/
def copy [Monad m] (s : Session) (clipboard : Option (Clipboard m)) : m (Bool × Session) := do
  let outcome ← Gateway.copyTo clipboard s.render
  return s.afterCopy outcome

/-- Write the rendered specification to a file. -/
def download [Monad m] (s : Session) (host : Host m) (gateway : Gateway) :
    m (Option String × Session) := do
  let outcome ← gateway.download host s.render
  return s.afterDownload outcome

/-- Submit the rendered specification. The export panel closes in any case. -/
def createQuery [Monad m] (s : Session) (service : QueryService m)
    (dataSource queryType : String) : m (Bool × Session) := do
  let outcome ← service dataSource s.render queryType
  return s.afterSubmission outcome

end Session

end QueryCanvas
