import QueryCanvas.Proofs.Session.Run
import QueryCanvas.Script.Replay

/-!
# Replays run to the first unknown table

`Replay.Step` says all that an action does: it adds a table that is known, connects or skips, or
configures. An action that takes no step adds a table that is not known, and the replay stops at
the first of these (`Replay.stopped_run`). A replay that does not stop leaves the session as the
gestures of its actions do, and its summary counts them (`Replay.run_known`). `Script.replay_exact`
says so of a script with a catalog, on any session.
-/

namespace QueryCanvas

/-- The first table of that name. -/
def firstTable? (tables : List Table) (name : String) : Option Table :=
  tables.find? (·.name == name)

/-- Tables of that name are found in the first list, or else in the second. -/
theorem firstTable?_append (first second : List Table) (name : String) :
    firstTable? (first ++ second) name =
      (firstTable? first name).or (firstTable? second name) :=
  List.find?_append

/-- A table of that name is found exactly if there is one. -/
theorem firstTable?_isSome_iff {tables : List Table} {name : String} :
    (firstTable? tables name).isSome ↔ ∃ table ∈ tables, table.name = name := by
  unfold firstTable?
  simp

/-- The table that an action adds. -/
def Action.added? : Action → Option String
  | .addTable name => some name
  | _ => none

/-- The tables that are added are those of the actions. -/
theorem Action.mem_added {name : String} {actions : List Action} :
    name ∈ actions.filterMap Action.added? ↔ .addTable name ∈ actions := by
  rw [List.mem_filterMap]
  constructor
  · rintro ⟨action, haction, hadded⟩
    cases action with
    | addTable other =>
        cases hadded
        exact haction
    | connect | configure => cases hadded
  · intro haction
    exact ⟨.addTable name, haction, rfl⟩

/-- The action adds a table. -/
def Action.isAddTable : Action → Bool
  | .addTable _ => true
  | _ => false

/-- The action connects two handles. -/
def Action.isConnect : Action → Bool
  | .connect _ _ => true
  | _ => false

/-- The action configures a field. -/
def Action.isConfigure : Action → Bool
  | .configure _ _ _ => true
  | _ => false

/-- The gestures that an action stands for; there are none for a table that is not known. -/
def Action.gestures (tables : List Table) : Action → List Gesture
  | .addTable name => (firstTable? tables name).toList.map .addTable
  | .connect source target => [.connect source target]
  | .configure table field config =>
      [.openPanel ⟨table, field⟩, .savePanel ⟨⟨table, field⟩, config⟩]

/-- The gestures that actions stand for, in their order. -/
def gesturesOf (tables : List Table) (actions : List Action) : List Gesture :=
  actions.flatMap (Action.gestures tables)

namespace ReplaySummary

/-- Summaries are added counter by counter. -/
instance : Add ReplaySummary where
  add a b :=
    ⟨a.nodesAdded + b.nodesAdded, a.connectionsAdded + b.connectionsAdded,
      a.connectionsSkipped + b.connectionsSkipped, a.fieldsConfigured + b.fieldsConfigured⟩

theorem add_assoc (a b c : ReplaySummary) : a + b + c = a + (b + c) := by
  show ReplaySummary.mk _ _ _ _ = ReplaySummary.mk _ _ _ _
  simp only [ReplaySummary.mk.injEq]
  exact ⟨Nat.add_assoc _ _ _, Nat.add_assoc _ _ _, Nat.add_assoc _ _ _, Nat.add_assoc _ _ _⟩

theorem zero_add (a : ReplaySummary) : {} + a = a := by
  show ReplaySummary.mk _ _ _ _ = a
  simp only [Nat.zero_add]

end ReplaySummary

/-- The summary counts the actions by their kinds, and the canvas has grown by what it counts. -/
structure Tally (actions : List Action) (before after : Session) (summary : ReplaySummary) :
    Prop where
  nodesAdded : summary.nodesAdded = actions.countP Action.isAddTable
  connections :
    summary.connectionsAdded + summary.connectionsSkipped = actions.countP Action.isConnect
  fieldsConfigured : summary.fieldsConfigured = actions.countP Action.isConfigure
  nodes : after.canvas.nodes.length = before.canvas.nodes.length + summary.nodesAdded
  drawn : after.canvas.connections.length =
    before.canvas.connections.length + summary.connectionsAdded

namespace Tally

variable {first second : List Action} {s t u : Session} {a b : ReplaySummary}

/-- Of no action. -/
theorem nil (s : Session) : Tally [] s s {} :=
  ⟨rfl, rfl, rfl, rfl, rfl⟩

/-- Of actions one after another. -/
theorem append (hfirst : Tally first s t a) (hsecond : Tally second t u b) :
    Tally (first ++ second) s u (a + b) where
  nodesAdded := by
    rw [List.countP_append, ← hfirst.nodesAdded, ← hsecond.nodesAdded]
    rfl
  connections := by
    rw [List.countP_append, ← hfirst.connections, ← hsecond.connections]
    show a.connectionsAdded + b.connectionsAdded + (a.connectionsSkipped + b.connectionsSkipped) = _
    omega
  fieldsConfigured := by
    rw [List.countP_append, ← hfirst.fieldsConfigured, ← hsecond.fieldsConfigured]
    rfl
  nodes := by
    rw [hsecond.nodes, hfirst.nodes, Nat.add_assoc]
    rfl
  drawn := by
    rw [hsecond.drawn, hfirst.drawn, Nat.add_assoc]
    rfl

end Tally

namespace Replay

/-! ## One action -/

/-- What an action does: it adds a table that is known, draws a connection or skips one that the
canvas refuses, or saves a configuration. -/
inductive Step (tables : List Table) (r : Replay) : Action → Replay → Prop where
  | added {name table} :
      firstTable? tables name = some table →
      Step tables r (.addTable name)
        ⟨(r.session.addTable table).2, r.summary + { nodesAdded := 1 }⟩
  | connected {source target canvas} :
      r.session.canvas.connect source target = .ok canvas →
      Step tables r (.connect source target)
        ⟨{ r.session with canvas := canvas }, r.summary + { connectionsAdded := 1 }⟩
  | skipped {source target e} :
      r.session.canvas.connect source target = .error e →
      Step tables r (.connect source target) ⟨r.session, r.summary + { connectionsSkipped := 1 }⟩
  | configured (table field config) :
      Step tables r (.configure table field config)
        ⟨r.session.savePanel ⟨⟨table, field⟩, config⟩, r.summary + { fieldsConfigured := 1 }⟩

variable {tables : List Table} {r next : Replay} {action : Action} {actions : List Action}
  {name : String}

/-- An action does nothing else, or adds a table that is not known. -/
theorem step_cases (tables : List Table) (r : Replay) (action : Action) :
    (∃ next, r.step tables action = .ok next ∧ r.Step tables action next) ∨
    (∃ name, action = .addTable name ∧ firstTable? tables name = none ∧
      r.step tables action = .error name) := by
  cases action with
  | addTable name =>
      cases hfound : firstTable? tables name with
      | some table =>
          left
          refine ⟨_, ?_, .added hfound⟩
          unfold firstTable? at hfound
          simp only [step, hfound]
          rfl
      | none =>
          right
          refine ⟨name, rfl, hfound, ?_⟩
          unfold firstTable? at hfound
          simp only [step, hfound]
  | connect source target =>
      left
      cases hdraw : r.session.canvas.connect source target with
      | ok canvas =>
          refine ⟨_, ?_, .connected hdraw⟩
          simp only [step, Session.connect, hdraw]
          rfl
      | error e =>
          refine ⟨_, ?_, .skipped hdraw⟩
          simp only [step, Session.connect, hdraw]
          rfl
  | configure table field config => exact .inl ⟨_, rfl, .configured table field config⟩

/-- An action leaves the session as its gestures do. -/
theorem Step.session (h : r.Step tables action next) :
    next.session = (r.session.run (action.gestures tables)).2 := by
  cases h with
  | added hfound => simp [Action.gestures, hfound, Session.perform]
  | connected hdraw => simp [Action.gestures, Session.perform, Session.connect, hdraw]
  | skipped hdraw => simp [Action.gestures, Session.perform, Session.connect, hdraw]
  | configured table field config => rfl

/-- An action is counted. -/
theorem Step.tally (h : r.Step tables action next) :
    ∃ one, next.summary = r.summary + one ∧ Tally [action] r.session next.session one := by
  cases h with
  | added hfound =>
      refine ⟨_, rfl, rfl, rfl, rfl, ?_, rfl⟩
      show (r.session.canvas.nodes ++ [_]).length = _
      rw [List.length_append]
      rfl
  | connected hdraw =>
      obtain ⟨s, t, -, -, rfl⟩ := Canvas.connect_eq_ok_iff.mp hdraw
      refine ⟨_, rfl, rfl, rfl, rfl, rfl, ?_⟩
      show (r.session.canvas.connections ++ [_]).length = _
      rw [List.length_append]
      rfl
  | skipped hdraw => exact ⟨_, rfl, rfl, rfl, rfl, rfl, rfl⟩
  | configured table field config => exact ⟨_, rfl, rfl, rfl, rfl, rfl, rfl⟩

/-- An action does the same whatever was counted before. -/
theorem step_add (tables : List Table) (before : ReplaySummary) (r : Replay) (action : Action) :
    step tables ⟨r.session, before + r.summary⟩ action =
      (r.step tables action).map fun next => ⟨next.session, before + next.summary⟩ := by
  cases action with
  | addTable name =>
      cases hfound : tables.find? (·.name == name) <;> simp only [step, hfound] <;> rfl
  | connect source target =>
      cases hdraw : r.session.canvas.connect source target <;>
        simp only [step, Session.connect, hdraw] <;> rfl
  | configure table field config => rfl

/-! ## All actions -/

/-- An action that takes a step is followed by the others. -/
theorem run_cons_ok (h : r.step tables action = .ok next) (actions : List Action) :
    run tables r (action :: actions) = run tables next actions := by
  rw [run, h]

/-- An action that adds a table that is not known is the last. -/
theorem run_cons_error (h : r.step tables action = .error name) (actions : List Action) :
    run tables r (action :: actions) = (r, some name) := by
  rw [run, h]

/-- A table that is not known stops a replay. -/
theorem run_cons_unknown (h : firstTable? tables name = none) (r : Replay)
    (actions : List Action) : run tables r (.addTable name :: actions) = (r, some name) := by
  unfold firstTable? at h
  apply run_cons_error
  simp only [step, h]

/-- A replay stops at the first table that is not known. -/
theorem stopped_run (tables : List Table) (r : Replay) (actions : List Action) :
    (run tables r actions).2 =
      (actions.filterMap Action.added?).find? fun name => (firstTable? tables name).isNone := by
  induction actions generalizing r with
  | nil => rfl
  | cons action actions ih =>
      rcases r.step_cases tables action with ⟨next, hok, hstep⟩ | ⟨name, rfl, hnone, herror⟩
      · -- An action that takes a step adds no table, or one that is found.
        rw [run_cons_ok hok, ih]
        cases hstep with
        | added hfound => simp [Action.added?, hfound]
        | connected | skipped | configured => rfl
      · rw [run_cons_error herror]
        simp [Action.added?, hnone]

/-- A replay does not stop exactly if it knows all tables that are added. -/
theorem stopped_run_eq_none_iff :
    (run tables r actions).2 = none ↔
      ∀ name, .addTable name ∈ actions → (firstTable? tables name).isSome := by
  rw [stopped_run, List.find?_eq_none]
  simp only [Action.mem_added, Bool.not_eq_true, Option.isNone_eq_false_iff]

/-- Actions after a replay that did not stop are replayed on what it left. -/
theorem run_append {first : List Action} (h : (run tables r first).2 = none)
    (second : List Action) :
    run tables r (first ++ second) = run tables (run tables r first).1 second := by
  induction first generalizing r with
  | nil => rfl
  | cons action first ih =>
      rcases r.step_cases tables action with ⟨next, hok, -⟩ | ⟨name, -, -, herror⟩
      · rw [run_cons_ok hok] at h ⊢
        rw [List.cons_append, run_cons_ok hok, ih h]
      · rw [run_cons_error herror] at h
        cases h

/-- Actions after a replay that stopped are not replayed. -/
theorem run_append_stopped {first : List Action} (h : (run tables r first).2 = some name)
    (second : List Action) : run tables r (first ++ second) = run tables r first := by
  induction first generalizing r with
  | nil => cases h
  | cons action first ih =>
      rcases r.step_cases tables action with ⟨next, hok, -⟩ | ⟨other, -, -, herror⟩
      · rw [run_cons_ok hok] at h ⊢
        rw [List.cons_append, run_cons_ok hok, ih h]
      · rw [List.cons_append, run_cons_error herror, run_cons_error herror]

/-- A replay does the same whatever was counted before. -/
theorem run_add (tables : List Table) (before : ReplaySummary) (r : Replay)
    (actions : List Action) :
    run tables ⟨r.session, before + r.summary⟩ actions =
      (⟨(run tables r actions).1.session, before + (run tables r actions).1.summary⟩,
        (run tables r actions).2) := by
  induction actions generalizing r with
  | nil => rfl
  | cons action actions ih =>
      have hstep := step_add tables before r action
      cases haction : r.step tables action with
      | ok next =>
          rw [haction] at hstep
          rw [run_cons_ok haction, run_cons_ok hstep, ih]
      | error name =>
          rw [haction] at hstep
          rw [run_cons_error haction, run_cons_error hstep]

/-- A replay that does not stop leaves the session as the gestures of its actions do, and counts
them. -/
theorem run_known (h : (run tables r actions).2 = none) :
    (run tables r actions).1.session = (r.session.run (gesturesOf tables actions)).2 ∧
      ∃ counted, (run tables r actions).1.summary = r.summary + counted ∧
        Tally actions r.session (run tables r actions).1.session counted := by
  induction actions generalizing r with
  | nil => exact ⟨rfl, {}, rfl, .nil r.session⟩
  | cons action actions ih =>
      rcases r.step_cases tables action with ⟨next, hok, hstep⟩ | ⟨name, -, -, herror⟩
      · rw [run_cons_ok hok] at h ⊢
        obtain ⟨hsession, later, hsummary, hlater⟩ := ih h
        obtain ⟨one, hone, htally⟩ := hstep.tally
        -- The others are counted after this one, from the session that it leaves.
        refine ⟨?_, one + later, ?_, htally.append hlater⟩
        · have hgestures : gesturesOf tables (action :: actions) =
              action.gestures tables ++ gesturesOf tables actions := List.flatMap_cons
          rw [hsession, hgestures, Session.run_append, hstep.session]
        · rw [hsummary, hone, ReplaySummary.add_assoc]
      · rw [run_cons_error herror] at h
        cases h

end Replay

namespace Script

/-- The script or the catalog has a table of that name. -/
def Knows (script : Script) (catalog : List Table) (name : String) : Prop :=
  (∃ table ∈ script.tables, table.name = name) ∨ ∃ table ∈ catalog, table.name = name

variable {script : Script} {session : Session} {catalog : List Table} {name : String}

/-- The tables of a script keep their names. -/
theorem exists_declaredTables_iff :
    (∃ table ∈ script.declaredTables, table.name = name) ↔
      ∃ table ∈ script.tables, table.name = name := by
  unfold declaredTables
  simp [ScriptTable.toTable, Table.ofColumns]

/-- A table that is known is found. -/
theorem knows_iff :
    script.Knows catalog name ↔ (firstTable? (script.declaredTables ++ catalog) name).isSome := by
  rw [firstTable?_append, Option.isSome_or, Bool.or_eq_true, firstTable?_isSome_iff,
    firstTable?_isSome_iff, exists_declaredTables_iff]
  rfl

/-- A replay does not stop exactly if all tables that are added are known. -/
theorem stopped_replay_eq_none_iff :
    (script.replay session catalog).2 = none ↔
      ∀ name, .addTable name ∈ script.actions → script.Knows catalog name := by
  simp only [knows_iff]
  exact Replay.stopped_run_eq_none_iff

/-- A replay that does not stop leaves the session as its gestures do, and counts the actions. -/
theorem replay_known (h : (script.replay session catalog).2 = none) :
    (script.replay session catalog).1.session =
        (session.run (gesturesOf (script.declaredTables ++ catalog) script.actions)).2 ∧
      Tally script.actions session (script.replay session catalog).1.session
        (script.replay session catalog).1.summary := by
  obtain ⟨hsession, counted, hsummary, htally⟩ := Replay.run_known h
  refine ⟨hsession, ?_⟩
  have hcounted : (script.replay session catalog).1.summary = counted := by
    rw [← ReplaySummary.zero_add counted]
    exact hsummary
  rw [hcounted]
  exact htally

/-- A table that is not known stops a replay, which has done what the actions before it do. -/
theorem replay_stops {before : List Action}
    (hbefore : ∀ other, .addTable other ∈ before → script.Knows catalog other)
    (hunknown : ¬ script.Knows catalog name) (after : List Action) :
    Script.replay ⟨script.tables, before ++ .addTable name :: after⟩ session catalog =
      ((Script.replay ⟨script.tables, before⟩ session catalog).1, some name) := by
  have hnone : (Replay.run (script.declaredTables ++ catalog) ⟨session, {}⟩ before).2 = none := by
    refine Replay.stopped_run_eq_none_iff.mpr ?_
    intro other hother
    exact knows_iff.mp (hbefore other hother)
  have hmissing : firstTable? (script.declaredTables ++ catalog) name = none := by
    rw [knows_iff] at hunknown
    simpa using hunknown
  exact (Replay.run_append hnone _).trans (Replay.run_cons_unknown hmissing _ after)

/-- Actions in two lists are replayed one list after the other, with their counts added. -/
theorem replay_append {tables : List ScriptTable} {first : List Action}
    (hfirst : (Script.replay ⟨tables, first⟩ session catalog).2 = none) (second : List Action) :
    let earlier := Script.replay ⟨tables, first⟩ session catalog
    let later := Script.replay ⟨tables, second⟩ earlier.1.session catalog
    Script.replay ⟨tables, first ++ second⟩ session catalog =
      (⟨later.1.session, earlier.1.summary + later.1.summary⟩, later.2) := by
  intro earlier later
  exact (Replay.run_append hfirst second).trans
    (Replay.run_add _ earlier.1.summary ⟨earlier.1.session, {}⟩ second)

/-- A replay runs exactly to the first table that neither the script nor the catalog knows. Without
one it does not stop, leaves the session as all gestures in order do, counts the actions, and has
grown the canvas by what it counts. With one it stops there, and has done what a replay of the
actions before does. Actions in two lists are replayed one list after the other, with their counts
added. -/
theorem replay_exact (script : Script) (session : Session) (catalog : List Table) :
    let outcome := script.replay session catalog
    (outcome.2 = none ↔ ∀ name, .addTable name ∈ script.actions → script.Knows catalog name) ∧
    (outcome.2 = none →
      outcome.1.session =
        (session.run (gesturesOf (script.declaredTables ++ catalog) script.actions)).2 ∧
      Tally script.actions session outcome.1.session outcome.1.summary) ∧
    (∀ before name after, script.actions = before ++ .addTable name :: after →
      (∀ other, .addTable other ∈ before → script.Knows catalog other) →
      ¬ script.Knows catalog name →
        outcome = ((Script.replay ⟨script.tables, before⟩ session catalog).1, some name)) ∧
    ∀ first second, script.actions = first ++ second →
      let earlier := Script.replay ⟨script.tables, first⟩ session catalog
      let later := Script.replay ⟨script.tables, second⟩ earlier.1.session catalog
      (earlier.2 = none →
        outcome = (⟨later.1.session, earlier.1.summary + later.1.summary⟩, later.2)) ∧
      ∀ name, earlier.2 = some name → outcome = earlier := by
  obtain ⟨tables, actions⟩ := script
  intro outcome
  refine ⟨stopped_replay_eq_none_iff, replay_known, ?_, ?_⟩
  · rintro before name after rfl hbefore hunknown
    exact replay_stops hbefore hunknown after
  · rintro first second rfl earlier later
    exact ⟨fun hnone => replay_append hnone second,
      fun name hstopped => Replay.run_append_stopped hstopped second⟩

/-- One table that is declared and one that is not. The handles are those of a canvas that has a
node already; the second connection names a node that is never there. -/
def ghosts : Script where
  tables := [⟨"orders", OrderedMap.empty.insert "id" "integer"⟩]
  actions :=
    [.addTable "orders",
     .connect "1-id-source" "0-id-target",
     .connect "7-id-source" "0-id-target",
     .addTable "ghost",
     .addTable "orders"]

theorem replay_exact_ghosts :
    let session := ((Session.start {}).addTable ⟨"stock", [⟨"id", "id", .number, true, false⟩]⟩).2
    let done := Script.replay ⟨ghosts.tables, ghosts.actions.take 3⟩ session []
    (∀ name, .addTable name ∈ ghosts.actions.take 3 → ghosts.Knows [] name) ∧
      ¬ ghosts.Knows [] "ghost" ∧
      done.2 = none ∧
      done.1.summary.nodesAdded = 1 ∧
      done.1.summary.connectionsAdded + done.1.summary.connectionsSkipped = 2 ∧
      done.1.session.canvas.nodes.length = session.canvas.nodes.length + 1 ∧
      ghosts.replay session [] = (done.1, some "ghost") := by
  intro session done
  have hknown : ∀ name, .addTable name ∈ ghosts.actions.take 3 → ghosts.Knows [] name := by
    intro name hname
    obtain rfl : name = "orders" := by simpa [ghosts] using hname
    exact .inl ⟨_, List.mem_cons_self, rfl⟩
  have hunknown : ¬ ghosts.Knows [] "ghost" := by
    simp [Knows, ghosts]
  obtain ⟨hnone, hdone, -, -⟩ :=
    replay_exact ⟨ghosts.tables, ghosts.actions.take 3⟩ session []
  obtain ⟨-, -, hstops, -⟩ := replay_exact ghosts session []
  have hran : done.2 = none := hnone.mpr hknown
  obtain ⟨-, htally⟩ := hdone hran
  have hnodes : done.1.summary.nodesAdded = 1 := htally.nodesAdded
  refine ⟨hknown, hunknown, hran, hnodes, htally.connections, ?_, ?_⟩
  · rw [← hnodes]
    exact htally.nodes
  · exact hstops (ghosts.actions.take 3) "ghost" [.addTable "orders"] rfl hknown hunknown

end Script

end QueryCanvas
