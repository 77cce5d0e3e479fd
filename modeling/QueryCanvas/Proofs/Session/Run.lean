import Mathlib.Data.List.Forall2
import QueryCanvas.Proofs.Canvas.Run
import QueryCanvas.Session.Basic

/-!
# Runs of an editor

A run performs gestures one after another and logs what each gives back. An export takes the outcome
that its surroundings give it as a part of the gesture, so that a statement about all runs covers
all outcomes. To the canvas a run is the run of the calls that its gestures make
(`Session.run_canvas`), so it extends the canvas (`Session.run_extends`) and keeps it numbered as
long as there are numbers (`Session.run_numbered`). It appends one connection for each connect
gesture that was accepted, in their order (`Session.run_connections`).
-/

namespace QueryCanvas

/-- A gesture of the user. A copy, a download and a submission come with their outcomes. -/
inductive Gesture where
  | addTable (table : Table)
  | connect (source target : String)
  | openPanel (key : FieldKey)
  | savePanel (panel : Panel)
  | copy (outcome : Except ExportError Unit)
  | download (outcome : Except ExportError String)
  | createQuery (outcome : Except SubmitError Unit)
  | openExport
  | closeExport
  | takeNotifications

/-- What a gesture gives back. -/
inductive Reply where
  | node (id : NodeId)
  | connection (place : Option Nat)
  | panel (panel : Panel)
  | succeeded (success : Bool)
  | saved (path : Option String)
  | notifications (taken : List Notification)
  | nothing

/-- The gesture places a table. -/
def Gesture.isAddTable : Gesture → Bool
  | .addTable _ => true
  | _ => false

/-- The call that a gesture makes on the canvas. -/
def Gesture.call? : Gesture → Option Canvas.Call
  | .addTable table => some (.addTable table)
  | .connect source target => some (.connect source target)
  | _ => none

/-- The calls that gestures make on the canvas, in their order. -/
def canvasCalls (gestures : List Gesture) : List Canvas.Call :=
  gestures.filterMap Gesture.call?

/-- The handles of a connect gesture that was accepted. -/
def accepted? : Gesture × Reply → Option (String × String)
  | (.connect source target, .connection (some _)) => some (source, target)
  | _ => none

/-- The handles of all connect gestures of a log that were accepted, in their order. -/
def accepted (log : List (Gesture × Reply)) : List (String × String) :=
  log.filterMap accepted?

/-- The connection is the one that is drawn between the two texts: each of them resolves on the
canvas, and the connection carries the nodes of the two handles and the texts as they are. -/
def Canvas.Drew (c : Canvas) (ends : String × String) (connection : Connection) : Prop :=
  ∃ s t, c.resolve ends.1 = .ok s ∧ c.resolve ends.2 = .ok t ∧
    connection = ⟨s.node, ends.1, t.node, ends.2⟩

/-- A drawn connection stays drawn when the canvas grows. -/
theorem Canvas.Drew.mono {c next : Canvas} (hgrow : c.Extends next) {ends : String × String}
    {connection : Connection} (hdrew : c.Drew ends connection) : next.Drew ends connection := by
  obtain ⟨s, t, hsource, htarget, rfl⟩ := hdrew
  exact ⟨s, t, hgrow.resolve hsource, hgrow.resolve htarget, rfl⟩

namespace Session

/-- Perform a gesture. -/
def perform (s : Session) : Gesture → Reply × Session
  | .addTable table => (s.addTable table).map .node id
  | .connect source target => (s.connect source target).map .connection id
  | .openPanel key => (.panel (s.openPanel key), s)
  | .savePanel panel => (.nothing, s.savePanel panel)
  | .copy outcome => (s.afterCopy outcome).map .succeeded id
  | .download outcome => (s.afterDownload outcome).map .saved id
  | .createQuery outcome => (s.afterSubmission outcome).map .succeeded id
  | .openExport => (.nothing, s.openExport)
  | .closeExport => (.nothing, s.closeExport)
  | .takeNotifications => s.takeNotifications.map .notifications id

/-- Perform gestures in turn: the log of the gestures with their replies, and the session in the
end. -/
def run (s : Session) : List Gesture → List (Gesture × Reply) × Session
  | [] => ([], s)
  | g :: gestures =>
      let (reply, next) := s.perform g
      let (log, last) := next.run gestures
      ((g, reply) :: log, last)

variable {s : Session}

@[simp] theorem run_nil (s : Session) : s.run [] = ([], s) := rfl

@[simp] theorem run_cons (s : Session) (g : Gesture) (gestures : List Gesture) :
    s.run (g :: gestures) =
      ((g, (s.perform g).1) :: ((s.perform g).2.run gestures).1,
        ((s.perform g).2.run gestures).2) := rfl

/-- Performing gestures in two goes is performing them in one. -/
theorem run_append (s : Session) (earlier later : List Gesture) :
    s.run (earlier ++ later) =
      ((s.run earlier).1 ++ ((s.run earlier).2.run later).1, ((s.run earlier).2.run later).2) := by
  induction earlier generalizing s with
  | nil => rfl
  | cons g earlier ih => rw [List.cons_append, run_cons, run_cons, ih]; rfl

/-- What the canvas draws, the session keeps. -/
theorem connect_of_ok {source target : String} {next : Canvas}
    (hdraw : s.canvas.connect source target = .ok next) :
    s.connect source target = (some s.canvas.connections.length, { s with canvas := next }) := by
  rw [connect, hdraw]

/-- What the canvas refuses, the session ignores. -/
theorem connect_of_error {source target : String} {e : ConnectError}
    (hrefuse : s.canvas.connect source target = .error e) :
    s.connect source target = (none, s) := by
  rw [connect, hrefuse]

/-- A gesture leaves the canvas as its call does, or as it was. -/
theorem perform_canvas (s : Session) (g : Gesture) :
    (s.perform g).2.canvas = (s.canvas.run g.call?.toList).2 := by
  cases g with
  | addTable table => rfl
  | connect source target =>
      cases hdraw : s.canvas.connect source target with
      | ok next =>
          simp [perform, connect_of_ok hdraw, Gesture.call?, Canvas.perform, Canvas.settle, hdraw]
      | error e =>
          simp [perform, connect_of_error hdraw, Gesture.call?, Canvas.perform, Canvas.settle,
            hdraw]
  | copy outcome => cases outcome <;> rfl
  | download outcome => cases outcome <;> rfl
  | createQuery outcome => cases outcome <;> rfl
  | openPanel | savePanel | openExport | closeExport | takeNotifications => rfl

/-- Gestures leave the canvas as their calls do. -/
theorem run_canvas (s : Session) (gestures : List Gesture) :
    (s.run gestures).2.canvas = (s.canvas.run (canvasCalls gestures)).2 := by
  induction gestures generalizing s with
  | nil => rfl
  | cons g gestures ih =>
      have hcalls : canvasCalls (g :: gestures) = g.call?.toList ++ canvasCalls gestures := by
        simp only [canvasCalls, List.filterMap_eq_flatMap_toList, List.flatMap_cons]
      rw [run_cons, ih, perform_canvas, hcalls, Canvas.run_append]

/-- A run extends the canvas. -/
theorem run_extends (s : Session) (gestures : List Gesture) :
    s.canvas.Extends (s.run gestures).2.canvas := by
  rw [run_canvas]
  exact Canvas.run_extends s.canvas _

/-- The tables that the canvas is called to place are those of the gestures that place one. -/
theorem length_tablesOf_canvasCalls (gestures : List Gesture) :
    (Canvas.tablesOf (canvasCalls gestures)).length = gestures.countP Gesture.isAddTable := by
  induction gestures with
  | nil => rfl
  | cons g gestures ih =>
      rw [List.countP_cons, ← ih]
      cases g <;> rfl

/-- A run adds as many nodes as it has gestures that place a table. -/
theorem length_nodes_run (s : Session) (gestures : List Gesture) :
    (s.run gestures).2.canvas.nodes.length =
      s.canvas.nodes.length + gestures.countP Gesture.isAddTable := by
  rw [run_canvas, Canvas.length_nodes_run, length_tablesOf_canvasCalls]

/-- A run that does not use up the numbers keeps the canvas numbered. -/
theorem run_numbered {gestures : List Gesture} (hnum : s.canvas.Numbered)
    (hroom : (s.run gestures).2.canvas.nodes.length < UInt64.size) :
    (s.run gestures).2.canvas.Numbered := by
  rw [run_canvas] at hroom ⊢
  exact Canvas.run_numbered hnum hroom

/-- What a gesture says of the canvas: an accepted connect gesture drew a connection, and any other
gesture drew none. -/
theorem perform_accepted (s : Session) (g : Gesture) :
    (∃ source target, accepted? (g, (s.perform g).1) = some (source, target) ∧
      s.canvas.connect source target = .ok (s.perform g).2.canvas) ∨
    (accepted? (g, (s.perform g).1) = none ∧
      (s.perform g).2.canvas.connections = s.canvas.connections) := by
  cases g with
  | connect source target =>
      cases hdraw : s.canvas.connect source target with
      | ok canvas =>
          left
          refine ⟨source, target, ?_, ?_⟩ <;>
            simp [perform, connect_of_ok hdraw, accepted?, hdraw]
      | error e =>
          right
          constructor <;> simp [perform, connect_of_error hdraw, accepted?]
  | copy outcome => cases outcome <;> exact .inr ⟨rfl, rfl⟩
  | download outcome => cases outcome <;> exact .inr ⟨rfl, rfl⟩
  | createQuery outcome => cases outcome <;> exact .inr ⟨rfl, rfl⟩
  | addTable | openPanel | savePanel | openExport | closeExport | takeNotifications =>
      exact .inr ⟨rfl, rfl⟩

/-- A run appends one connection for each accepted connect gesture, in their order. -/
theorem run_connections (s : Session) (gestures : List Gesture) :
    ∃ drawn, (s.run gestures).2.canvas.connections = s.canvas.connections ++ drawn ∧
      List.Forall₂ (s.run gestures).2.canvas.Drew (accepted (s.run gestures).1) drawn := by
  induction gestures generalizing s with
  | nil => exact ⟨[], by simp, .nil⟩
  | cons g gestures ih =>
      obtain ⟨drawn, hconnections, hdrawn⟩ := ih (s.perform g).2
      rw [run_cons]
      rcases s.perform_accepted g with ⟨source, target, hreply, hdraw⟩ | ⟨hreply, hsame⟩
      · -- The handles resolved before the gesture; the canvas has grown since.
        have hgrow : s.canvas.Extends (s.run (g :: gestures)).2.canvas := s.run_extends _
        obtain ⟨first, second, hsource, htarget, hnext⟩ := Canvas.connect_eq_ok_iff.mp hdraw
        refine ⟨⟨first.node, source, second.node, target⟩ :: drawn, ?_, ?_⟩
        · rw [hconnections, hnext]
          simp
        · rw [accepted, List.filterMap_cons_some hreply]
          exact .cons (Canvas.Drew.mono hgrow ⟨first, second, hsource, htarget, rfl⟩) hdrawn
      · refine ⟨drawn, ?_, ?_⟩
        · rw [hconnections, hsame]
        · rw [accepted, List.filterMap_cons_none hreply]
          exact hdrawn

end Session

end QueryCanvas
