import QueryCanvas.Script.Basic
import QueryCanvas.Session.Basic

/-!
# Replaying a script

The gestures of a script are applied to a session one by one, up to the first one that adds a table
that neither the script nor the catalog knows. Connections that the canvas refuses are skipped.
-/

namespace QueryCanvas

/-- What a replay did. -/
structure ReplaySummary where
  nodesAdded : Nat := 0
  connectionsAdded : Nat := 0
  connectionsSkipped : Nat := 0
  fieldsConfigured : Nat := 0
deriving DecidableEq, Repr

/-- A replay under way: the session and what was done so far. -/
structure Replay where
  session : Session
  summary : ReplaySummary

namespace Replay

/-- Apply one gesture with the given tables; the name of a table that is not among them stops the
replay. -/
def step (tables : List Table) (r : Replay) : Action → Except String Replay
  | .addTable name =>
      match tables.find? (·.name == name) with
      | none => .error name
      | some table =>
          .ok
            ⟨(r.session.addTable table).2,
              { r.summary with nodesAdded := r.summary.nodesAdded + 1 }⟩
  | .connect source target =>
      match r.session.connect source target with
      | (some _, session) =>
          .ok
            ⟨session, { r.summary with connectionsAdded := r.summary.connectionsAdded + 1 }⟩
      | (none, session) =>
          .ok
            ⟨session, { r.summary with connectionsSkipped := r.summary.connectionsSkipped + 1 }⟩
  | .configure table field config =>
      let panel := (r.session.openPanel ⟨table, field⟩).edit (.draft config)
      .ok
        ⟨r.session.savePanel panel,
          { r.summary with fieldsConfigured := r.summary.fieldsConfigured + 1 }⟩

/-- Apply gestures in order. The second part is the unknown table that stopped the replay, if one
did. -/
def run (tables : List Table) (r : Replay) : List Action → Replay × Option String
  | [] => (r, none)
  | action :: actions =>
      match r.step tables action with
      | .ok r => run tables r actions
      | .error name => (r, some name)

end Replay

/-- Replay a script on a session. Its own tables come before those of the catalog. -/
def Script.replay (script : Script) (session : Session) (catalog : List Table) :
    Replay × Option String :=
  Replay.run (script.declaredTables ++ catalog) ⟨session, {}⟩ script.actions

/-- The text for a table that a replay does not know. -/
def unknownTableMessage (name : String) : String :=
  "Table not found: " ++ name

end QueryCanvas
