import QueryCanvas.Proofs.Export.Document
import QueryCanvas.Proofs.Session.Run

/-!
# Exports report and change nothing

`Session.Settles` says what a gesture does beside its edits: to the queue of notifications, to the
export panel, and to canvas and configurations if it is no edit. From it follows what a run does. No
notification is lost or issued twice (`Session.run_notifications`), taking them leaves none
(`Session.run_takeNotifications`), and between two edits the rendered specification stays
(`Session.run_frame`). What an export hands out is the specification of the moment, whatever its
surroundings answer (`Session.copy_hands_out` and its neighbours). `Session.run_exports` says all
this of every session that gestures lead to.
-/

namespace QueryCanvas

/-- The gesture edits the canvas or the configurations. -/
def Gesture.isEdit : Gesture → Bool
  | .addTable _ | .connect _ _ | .savePanel _ => true
  | _ => false

/-- The gesture hands the specification out. -/
def Gesture.isExport : Gesture → Bool
  | .copy _ | .download _ | .createQuery _ => true
  | _ => false

/-- The notification that a gesture issues. -/
def Gesture.notice? : Gesture → Option Notification
  | .copy (.ok ()) => some ⟨.success, "Copied to clipboard"⟩
  | .copy (.error e) => some ⟨.error, e.message⟩
  | .download (.ok path) => some ⟨.success, "Saved " ++ path⟩
  | .download (.error e) => some ⟨.error, e.message⟩
  | .createQuery (.ok ()) => some ⟨.success, "Query created successfully"⟩
  | .createQuery (.error e) => some ⟨.error, e.userMessage⟩
  | _ => none

/-- Whether the export panel is open after a gesture. -/
def Gesture.panelAfter (wasOpen : Bool) : Gesture → Bool
  | .openExport => true
  | .closeExport | .createQuery _ => false
  | _ => wasOpen

/-- The notifications that gestures issue, in their order. -/
def issued (gestures : List Gesture) : List Notification :=
  gestures.filterMap Gesture.notice?

/-- The reply reports a success. -/
def Reply.isSuccess : Reply → Bool
  | .succeeded success => success
  | .saved path => path.isSome
  | _ => false

/-- The notifications that a reply takes out of the queue. -/
def Reply.taken : Reply → List Notification
  | .notifications taken => taken
  | _ => []

/-- The notifications that the replies of a log take out of the queue, in their order. -/
def takenOut (log : List (Gesture × Reply)) : List Notification :=
  log.flatMap fun entry => entry.2.taken

namespace Session

/-! ## One gesture -/

/-- What a gesture does beside its edits. -/
structure Settles (s : Session) (g : Gesture) (reply : Reply) (next : Session) : Prop where
  /-- Only edits change the canvas and the configurations. -/
  frame : g.isEdit = false → next.canvas = s.canvas ∧ next.fields = s.fields
  /-- What was in the queue is taken out or still there, and what is issued comes last. -/
  queue : reply.taken ++ next.notifications = s.notifications ++ g.notice?.toList
  /-- An export issues one notification and takes none out; its level is what it reports. -/
  reported : g.isExport = true → reply.taken = [] ∧
    ∃ notice, g.notice? = some notice ∧ (notice.level = .success ↔ reply.isSuccess = true)
  /-- No other gesture issues a notification. -/
  silent : g.isExport = false → g.notice? = none
  /-- A submission closes the export panel; a copy and a download leave it as it was. -/
  panel : next.exportOpen = g.panelAfter s.exportOpen

variable {s next : Session} {g : Gesture} {reply : Reply}

/-- A gesture that is no export settles if it leaves the queue as it was. -/
theorem Settles.quiet (hexport : g.isExport = false) (hnotice : g.notice? = none)
    (htaken : reply.taken = []) (hqueue : next.notifications = s.notifications)
    (hframe : g.isEdit = false → next.canvas = s.canvas ∧ next.fields = s.fields)
    (hpanel : next.exportOpen = g.panelAfter s.exportOpen) : s.Settles g reply next where
  frame := hframe
  queue := by rw [htaken, hqueue, hnotice, Option.toList_none, List.nil_append, List.append_nil]
  reported := by
    intro hother
    rw [hexport] at hother
    cases hother
  silent := fun _ => hnotice
  panel := hpanel

/-- So does an edit, whatever it does to canvas and configurations. -/
theorem Settles.edit (hedit : g.isEdit = true) (hexport : g.isExport = false)
    (hnotice : g.notice? = none) (htaken : reply.taken = [])
    (hqueue : next.notifications = s.notifications)
    (hpanel : next.exportOpen = g.panelAfter s.exportOpen) : s.Settles g reply next := by
  refine .quiet hexport hnotice htaken hqueue ?_ hpanel
  intro hother
  rw [hedit] at hother
  cases hother

/-- An export settles if it queues its notification and leaves canvas and configurations. -/
theorem Settles.export {notice : Notification} (hexport : g.isExport = true)
    (hnotice : g.notice? = some notice)
    (hlevel : decide (notice.level = .success) = reply.isSuccess) (htaken : reply.taken = [])
    (hqueue : next.notifications = s.notifications ++ [notice])
    (hframe : next.canvas = s.canvas ∧ next.fields = s.fields)
    (hpanel : next.exportOpen = g.panelAfter s.exportOpen) : s.Settles g reply next where
  frame := fun _ => hframe
  queue := by rw [htaken, hqueue, hnotice, Option.toList_some, List.nil_append]
  reported := fun _ => ⟨htaken, notice, hnotice, by rw [← hlevel, decide_eq_true_iff]⟩
  silent := by
    intro hother
    rw [hexport] at hother
    cases hother
  panel := hpanel

/-- Performing a gesture does nothing else. -/
theorem settles_perform (s : Session) (g : Gesture) :
    s.Settles g (s.perform g).1 (s.perform g).2 := by
  cases g with
  | addTable table => exact .edit rfl rfl rfl rfl rfl rfl
  | connect source target =>
      cases hdraw : s.canvas.connect source target with
      | ok canvas =>
          simp only [perform, connect_of_ok hdraw]
          exact .edit rfl rfl rfl rfl rfl rfl
      | error e =>
          simp only [perform, connect_of_error hdraw]
          exact .edit rfl rfl rfl rfl rfl rfl
  | openPanel key => exact .quiet rfl rfl rfl rfl (fun _ => ⟨rfl, rfl⟩) rfl
  | savePanel panel => exact .edit rfl rfl rfl rfl rfl rfl
  | copy outcome =>
      cases outcome with
      | ok done => exact .export rfl rfl rfl rfl rfl ⟨rfl, rfl⟩ rfl
      | error e => exact .export rfl rfl rfl rfl rfl ⟨rfl, rfl⟩ rfl
  | download outcome =>
      cases outcome with
      | ok path => exact .export rfl rfl rfl rfl rfl ⟨rfl, rfl⟩ rfl
      | error e => exact .export rfl rfl rfl rfl rfl ⟨rfl, rfl⟩ rfl
  | createQuery outcome =>
      cases outcome with
      | ok done => exact .export rfl rfl rfl rfl rfl ⟨rfl, rfl⟩ rfl
      | error e => exact .export rfl rfl rfl rfl rfl ⟨rfl, rfl⟩ rfl
  | openExport => exact .quiet rfl rfl rfl rfl (fun _ => ⟨rfl, rfl⟩) rfl
  | closeExport => exact .quiet rfl rfl rfl rfl (fun _ => ⟨rfl, rfl⟩) rfl
  | takeNotifications =>
      refine ⟨fun _ => ⟨rfl, rfl⟩, rfl, ?_, fun _ => rfl, rfl⟩
      intro hexport
      cases hexport

/-! ## All gestures -/

/-- No notification is lost or issued twice: what was taken out and what is still in the queue is
what was in it and what was issued since, in order. -/
theorem run_notifications (s : Session) (gestures : List Gesture) :
    takenOut (s.run gestures).1 ++ (s.run gestures).2.notifications =
      s.notifications ++ issued gestures := by
  -- What is taken out of the queue comes before what is still in it, whichever gesture took it.
  induction gestures generalizing s with
  | nil => simp [takenOut, issued]
  | cons g gestures ih =>
      have hissued : issued (g :: gestures) = g.notice?.toList ++ issued gestures := by
        simp only [issued, List.filterMap_eq_flatMap_toList, List.flatMap_cons]
      have hlog : takenOut (s.run (g :: gestures)).1 =
          (s.perform g).1.taken ++ takenOut ((s.perform g).2.run gestures).1 := by
        rw [run_cons, takenOut, List.flatMap_cons]
        rfl
      rw [hlog, hissued, run_cons, List.append_assoc, ih, ← List.append_assoc,
        (s.settles_perform g).queue, List.append_assoc]

/-- Taking the notifications replies with the whole queue, leaves it empty, and changes nothing
else. After it every notification that was issued has been taken out, once and in order. -/
theorem run_takeNotifications (s : Session) (gestures : List Gesture) :
    s.run (gestures ++ [.takeNotifications]) =
        ((s.run gestures).1 ++
            [(.takeNotifications, .notifications (s.run gestures).2.notifications)],
          { (s.run gestures).2 with notifications := [] }) ∧
      takenOut (s.run (gestures ++ [.takeNotifications])).1 =
        s.notifications ++ issued gestures := by
  have hrun := s.run_append gestures [.takeNotifications]
  refine ⟨hrun, ?_⟩
  rw [hrun, takenOut, List.flatMap_append, ← run_notifications]
  exact congrArg (takenOut (s.run gestures).1 ++ ·) (List.append_nil _)

/-- Gestures that are no edits leave the canvas and the configurations as they were. -/
theorem run_frame (s : Session) {gestures : List Gesture}
    (hother : ∀ g ∈ gestures, g.isEdit = false) :
    (s.run gestures).2.canvas = s.canvas ∧ (s.run gestures).2.fields = s.fields := by
  induction gestures generalizing s with
  | nil => exact ⟨rfl, rfl⟩
  | cons g gestures ih =>
      obtain ⟨hcanvas, hfields⟩ := (s.settles_perform g).frame (hother g List.mem_cons_self)
      obtain ⟨hlastCanvas, hlastFields⟩ :=
        ih (s.perform g).2 fun later hlater => hother later (List.mem_cons_of_mem g hlater)
      exact ⟨hlastCanvas.trans hcanvas, hlastFields.trans hfields⟩

/-- The rendered specification depends on the canvas and the configurations only. -/
theorem render_congr (hcanvas : next.canvas = s.canvas) (hfields : next.fields = s.fields) :
    next.render = s.render := by
  unfold render compiled
  rw [hcanvas, hfields]

/-! ## The surroundings of an export -/

/-- A function that answers as another one does and keeps what it is asked, in order. -/
def kept {α β : Type} (answer : α → β) (a : α) : StateM (List α) β := do
  modify (· ++ [a])
  return answer a

/-- A query service that answers as another one does and keeps what is submitted to it. -/
def keptService (service : QueryService Id) :
    QueryService (StateM (List (String × Specification × String))) :=
  fun dataSource spec queryType =>
    kept (fun asked => service asked.1 asked.2.1 asked.2.2) (dataSource, spec, queryType)

/-- A copy gives the rendered specification to the clipboard, if there is one, and settles by what
the clipboard answers. -/
theorem copy_hands_out (s : Session) (clipboard : Option (Clipboard Id)) :
    ((s.copy (clipboard.map kept)).run []).run =
      (s.afterCopy (Gateway.copyTo clipboard s.render),
        clipboard.toList.map fun _ => s.render.canonicalText) := by
  cases clipboard <;> rfl

/-- A host that keeps what it is handed lets a download end as the host does that it answers for. -/
theorem download_recorded (answers : Host Id) (gateway : Gateway) (spec : Specification) :
    ((gateway.download (recorded answers) spec).run []).run.1 = gateway.download answers spec := by
  unfold Gateway.download
  cases hcreated : answers.createDirectories gateway.directory with
  | error e =>
      simp only [recorded, hcreated]
      rfl
  | ok created =>
      cases hwritten : answers.writeText (gateway.filePath spec) spec.canonicalText <;>
        simp only [recorded, hcreated, hwritten] <;> rfl

/-- A download writes the rendered specification, if its directory is there, and settles by what the
host answers. -/
theorem download_hands_out (s : Session) (answers : Host Id) (gateway : Gateway) :
    ((s.download (recorded answers) gateway).run []).run =
      (s.afterDownload (gateway.download answers s.render),
        if (answers.createDirectories gateway.directory).isOk then [s.render.canonicalText]
        else []) := by
  rw [← handedOut_download answers gateway s.render, ← download_recorded]
  rfl

/-- A submission passes the rendered specification to the service and settles by what the service
answers. -/
theorem createQuery_hands_out (s : Session) (service : QueryService Id)
    (dataSource queryType : String) :
    ((s.createQuery (keptService service) dataSource queryType).run []).run =
      (s.afterSubmission (service dataSource s.render queryType),
        [(dataSource, s.render, queryType)]) :=
  rfl

/-- Exports report once and change nothing. In every session that gestures lead to, the
notifications that were taken out and those in the queue are those that were issued, in order. An
export issues one, a success exactly if it reports success, and no other gesture issues any; a
submission closes the export panel, and a copy and a download leave it. Gestures that are no edits
leave the canvas, the configurations and the rendered specification as they were. What a clipboard,
a host or a query service is handed is the rendered specification, whatever they answer. -/
theorem run_exports (layout : GridLayout) (gestures : List Gesture) :
    let log := ((start layout).run gestures).1
    let s := ((start layout).run gestures).2
    takenOut log ++ s.notifications = issued gestures ∧
    (∀ g, s.Settles g (s.perform g).1 (s.perform g).2) ∧
    (∀ later, (∀ g ∈ later, g.isEdit = false) →
      (s.run later).2.canvas = s.canvas ∧ (s.run later).2.fields = s.fields ∧
        (s.run later).2.render = s.render) ∧
    (∀ clipboard : Option (Clipboard Id),
      ((s.copy (clipboard.map kept)).run []).run =
        (s.afterCopy (Gateway.copyTo clipboard s.render),
          clipboard.toList.map fun _ => s.render.canonicalText)) ∧
    (∀ (answers : Host Id) (gateway : Gateway),
      ((s.download (recorded answers) gateway).run []).run =
        (s.afterDownload (gateway.download answers s.render),
          if (answers.createDirectories gateway.directory).isOk then [s.render.canonicalText]
          else [])) ∧
    ∀ (service : QueryService Id) (dataSource queryType : String),
      ((s.createQuery (keptService service) dataSource queryType).run []).run =
        (s.afterSubmission (service dataSource s.render queryType),
          [(dataSource, s.render, queryType)]) := by
  intro log s
  refine ⟨?_, s.settles_perform, ?_, s.copy_hands_out, s.download_hands_out,
    s.createQuery_hands_out⟩
  · exact (start layout).run_notifications gestures
  · intro later hother
    obtain ⟨hcanvas, hfields⟩ := s.run_frame hother
    exact ⟨hcanvas, hfields, render_congr hcanvas hfields⟩

/-- A copy that fails is reported and taken note of; then the query is submitted from the panel. -/
def submitted : List Gesture :=
  [.addTable ⟨"orders", [⟨"id", "id", .number, true, false⟩]⟩,
   .openExport,
   .copy (.error (.clipboardUnavailable "none")),
   .takeNotifications,
   .createQuery (.ok ())]

theorem run_exports_submitted :
    let s := ((start {}).run submitted).2
    takenOut ((start {}).run submitted).1 ++ s.notifications =
        [⟨.error, "clipboard unavailable: none"⟩,
          ⟨.success, "Query created successfully"⟩] ∧
      (∀ g ∈ [Gesture.download (.ok "specs/q.json"), .takeNotifications], g.isEdit = false) ∧
      (s.run [.download (.ok "specs/q.json"), .takeNotifications]).2.render = s.render ∧
      (s.perform (.copy (.ok ()))).2.exportOpen = false ∧
      ((s.copy (some (kept fun _ => .error (.clipboardFailed "gone")))).run []).run =
        ((false, s.notify .error "clipboard command failed: gone"), [s.render.canonicalText]) := by
  intro s
  obtain ⟨hqueue, hsettles, hframe, hcopy, -, -⟩ := run_exports {} submitted
  have hother : ∀ g ∈ [Gesture.download (.ok "specs/q.json"), .takeNotifications],
      g.isEdit = false := by simp [Gesture.isEdit]
  refine ⟨hqueue, hother, (hframe _ hother).2.2, (hsettles (.copy (.ok ()))).panel, ?_⟩
  exact hcopy (some fun _ => .error (.clipboardFailed "gone"))

end Session

end QueryCanvas
