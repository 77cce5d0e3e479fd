import QueryCanvas.Proofs.Script.Replay

/-!
# Canvas actions and configurations do not interfere

An action works on the canvas or saves a configuration, and never both. `Replay.Step.parts` says
what one action does to the two parts of a session, and `Replay.run_parts` what a replay does:
the canvas is as the canvas actions leave it, and the configurations are those that the configure
actions save. `Script.replay_interleaved` says so of scripts that interleave the same actions in
different ways, and which part each section of the rendered specification depends on.
-/

namespace QueryCanvas

/-! ## The two parts of a list of actions -/

/-- The actions that work on the canvas, in their order. -/
def canvasPart (actions : List Action) : List Action :=
  actions.filter fun action => action.isAddTable || action.isConnect

/-- The actions that save a configuration, in their order. -/
def configurePart (actions : List Action) : List Action :=
  actions.filter Action.isConfigure

/-- The call that an action makes on the canvas; there is none for a table that is not known. -/
def Action.call? (tables : List Table) : Action → Option Canvas.Call
  | .addTable name => (firstTable? tables name).map .addTable
  | .connect source target => some (.connect source target)
  | .configure _ _ _ => none

/-- The panel that an action saves. -/
def Action.panel? : Action → Option Panel
  | .configure table field config => some ⟨⟨table, field⟩, config⟩
  | _ => none

variable {first second actions : List Action} {tables : List Table}

/-- The canvas is called by the actions of its part only. -/
theorem filterMap_call?_canvasPart (tables : List Table) (actions : List Action) :
    (canvasPart actions).filterMap (Action.call? tables) =
      actions.filterMap (Action.call? tables) := by
  rw [canvasPart, List.filterMap_filter]
  refine List.filterMap_congr ?_
  intro action _
  cases action <;> rfl

/-- Panels are saved by the actions that configure only. -/
theorem filterMap_panel?_configurePart (actions : List Action) :
    (configurePart actions).filterMap Action.panel? = actions.filterMap Action.panel? := by
  rw [configurePart, List.filterMap_filter]
  refine List.filterMap_congr ?_
  intro action _
  cases action <;> rfl

/-- Actions with the same canvas part add the same tables. -/
theorem addTable_mem_of_canvasPart (hcanvas : canvasPart first = canvasPart second) {name : String}
    (hmem : .addTable name ∈ first) : .addTable name ∈ second := by
  have hpart : .addTable name ∈ canvasPart first := List.mem_filter.mpr ⟨hmem, rfl⟩
  rw [hcanvas] at hpart
  exact (List.mem_filter.mp hpart).1

/-- Actions with the same canvas part have as many actions of a kind that works on the canvas. -/
theorem countP_eq_of_canvasPart {kind : Action → Bool}
    (hkind : ∀ action, kind action = true → (action.isAddTable || action.isConnect) = true)
    (hcanvas : canvasPart first = canvasPart second) : first.countP kind = second.countP kind := by
  have hpart : ∀ actions, (canvasPart actions).countP kind = actions.countP kind := by
    intro actions
    rw [canvasPart, List.countP_filter]
    refine List.countP_congr ?_
    intro action _
    rw [Bool.and_eq_true]
    exact and_iff_left_of_imp (hkind action)
  rw [← hpart first, hcanvas, hpart]

/-- Actions with the same configure part have as many actions that configure. -/
theorem countP_eq_of_configurePart (hconfigure : configurePart first = configurePart second) :
    first.countP Action.isConfigure = second.countP Action.isConfigure := by
  rw [List.countP_eq_length_filter, List.countP_eq_length_filter]
  exact congrArg List.length hconfigure

namespace Replay

variable {r next : Replay} {action : Action}

/-- An action makes its call on the canvas and saves its panel, and leaves the rest of the session
as it was. -/
theorem Step.parts (h : r.Step tables action next) :
    next.session =
      { r.session with
        canvas := (r.session.canvas.run (action.call? tables).toList).2
        fields := action.panel?.toList.foldl FieldConfigs.save r.session.fields } := by
  cases h with
  | added hfound =>
      simp only [Action.call?, hfound]
      rfl
  | connected hdraw =>
      simp [Action.call?, Action.panel?, Canvas.perform, Canvas.settle, hdraw]
  | skipped hdraw =>
      simp [Action.call?, Action.panel?, Canvas.perform, Canvas.settle, hdraw]
  | configured table field config => rfl

/-- A replay that does not stop makes the calls of its actions on the canvas and saves their panels,
and leaves the rest of the session as it was. -/
theorem run_parts (h : (run tables r actions).2 = none) :
    (run tables r actions).1.session =
      { r.session with
        canvas := (r.session.canvas.run (actions.filterMap (Action.call? tables))).2
        fields := (actions.filterMap Action.panel?).foldl FieldConfigs.save r.session.fields } := by
  induction actions generalizing r with
  | nil => rfl
  | cons action actions ih =>
      rcases r.step_cases tables action with ⟨next, hok, hstep⟩ | ⟨name, -, -, herror⟩
      · rw [run_cons_ok hok] at h ⊢
        rw [ih h, hstep.parts]
        simp only [List.filterMap_eq_flatMap_toList, List.flatMap_cons, Canvas.run_append,
          List.foldl_append]
      · rw [run_cons_error herror] at h
        cases h

end Replay

/-- Actions with the same two parts that grow a canvas alike are counted alike. -/
theorem Tally.summary_eq {s t : Session} {a b : ReplaySummary} (hfirst : Tally first s t a)
    (hsecond : Tally second s t b) (hcanvas : canvasPart first = canvasPart second)
    (hconfigure : configurePart first = configurePart second) : a = b := by
  have hadded : first.countP Action.isAddTable = second.countP Action.isAddTable := by
    refine countP_eq_of_canvasPart ?_ hcanvas
    intro action haction
    rw [haction, Bool.true_or]
  have hconnects : first.countP Action.isConnect = second.countP Action.isConnect := by
    refine countP_eq_of_canvasPart ?_ hcanvas
    intro action haction
    rw [haction, Bool.or_true]
  have hnodes : a.nodesAdded = b.nodesAdded := by
    rw [hfirst.nodesAdded, hsecond.nodesAdded, hadded]
  have hdrawn : a.connectionsAdded = b.connectionsAdded :=
    Nat.add_left_cancel (hfirst.drawn.symm.trans hsecond.drawn)
  have hskipped : a.connectionsSkipped = b.connectionsSkipped := by
    have hconnections := hfirst.connections.trans (hconnects.trans hsecond.connections.symm)
    omega
  have hfields : a.fieldsConfigured = b.fieldsConfigured := by
    rw [hfirst.fieldsConfigured, hsecond.fieldsConfigured, countP_eq_of_configurePart hconfigure]
  cases a
  cases b
  rw [ReplaySummary.mk.injEq]
  exact ⟨hnodes, hdrawn, hskipped, hfields⟩

/-! ## Scripts -/

/-- The reference tables of a session depend on its canvas only. -/
theorem Session.referenceTables_render_congr {s t : Session} (hcanvas : s.canvas = t.canvas) :
    s.render.referenceTables = t.render.referenceTables := by
  show (inferJoins s.canvas.nodes s.canvas.connections).entries =
    (inferJoins t.canvas.nodes t.canvas.connections).entries
  rw [hcanvas]

/-- The other sections of the rendered specification depend on the configurations only. -/
theorem Session.sections_render_congr {s t : Session} (hfields : s.fields = t.fields) :
    { s.render with referenceTables := t.render.referenceTables } = t.render := by
  simp only [Session.render, Session.compiled, compileCanvas, compile, compileEntries, hfields]

namespace Script

variable {script other : Script} {session start : Session} {catalog tables : List Table}

theorem declaredTables_congr (htables : other.tables = script.tables) :
    other.declaredTables = script.declaredTables := by
  rw [declaredTables, declaredTables, htables]

/-- A script with the same tables and the same canvas part has its tables known too. -/
theorem knows_of_canvasPart (htables : other.tables = script.tables)
    (hcanvas : canvasPart other.actions = canvasPart script.actions)
    (hknown : ∀ name, .addTable name ∈ script.actions → script.Knows catalog name) :
    ∀ name, .addTable name ∈ other.actions → other.Knows catalog name := by
  intro name hname
  rw [Knows, htables]
  exact hknown name (addTable_mem_of_canvasPart hcanvas hname)

/-- A replay that does not stop changes the canvas by its canvas part and the configurations by its
configure part. -/
theorem session_replay (h : (script.replay session catalog).2 = none) :
    (script.replay session catalog).1.session =
      { session with
        canvas := (session.canvas.run ((canvasPart script.actions).filterMap
          (Action.call? (script.declaredTables ++ catalog)))).2
        fields := ((configurePart script.actions).filterMap Action.panel?).foldl
          FieldConfigs.save session.fields } := by
  rw [filterMap_call?_canvasPart, filterMap_panel?_configurePart]
  exact Replay.run_parts h

/-- Scripts with the same tables and the same parts replay alike. -/
theorem replay_eq_of_parts (htables : other.tables = script.tables)
    (hcanvas : canvasPart other.actions = canvasPart script.actions)
    (hconfigure : configurePart other.actions = configurePart script.actions)
    (hother : (other.replay session catalog).2 = none)
    (hscript : (script.replay session catalog).2 = none) :
    other.replay session catalog = script.replay session catalog := by
  have hsession : (other.replay session catalog).1.session =
      (script.replay session catalog).1.session := by
    rw [session_replay hother, session_replay hscript, declaredTables_congr htables, hcanvas,
      hconfigure]
  have hcounted := (replay_known hother).2
  rw [hsession] at hcounted
  have hsummary : (other.replay session catalog).1.summary =
      (script.replay session catalog).1.summary :=
    hcounted.summary_eq (replay_known hscript).2 hcanvas hconfigure
  refine Prod.ext ?_ (hother.trans hscript.symm)
  show Replay.mk _ _ = Replay.mk _ _
  rw [hsession, hsummary]

/-- Canvas actions and configurations do not interfere. A script of which all tables are known
leaves the same session and counts the same as every script with the same tables that interleaves
the same canvas actions with the same configure actions in another way. The rendered reference
tables depend on the canvas at the start, the tables and the canvas actions only, and all other
sections on the configurations at the start and the configure actions only. -/
theorem replay_interleaved (session : Session)
    (hknown : ∀ name, .addTable name ∈ script.actions → script.Knows catalog name) :
    let outcome := script.replay session catalog
    let spec := outcome.1.session.render
    outcome.2 = none ∧
    (∀ other : Script, other.tables = script.tables →
      canvasPart other.actions = canvasPart script.actions →
      configurePart other.actions = configurePart script.actions →
        other.replay session catalog = outcome) ∧
    (∀ (other : Script) (start : Session), other.tables = script.tables →
      canvasPart other.actions = canvasPart script.actions → start.canvas = session.canvas →
        (other.replay start catalog).1.session.render.referenceTables = spec.referenceTables) ∧
    ∀ (other : Script) (start : Session) (tables : List Table),
      (∀ name, .addTable name ∈ other.actions → other.Knows tables name) →
      configurePart other.actions = configurePart script.actions → start.fields = session.fields →
        { (other.replay start tables).1.session.render with
          referenceTables := spec.referenceTables } = spec := by
  intro outcome spec
  have hscript : outcome.2 = none := stopped_replay_eq_none_iff.mpr hknown
  refine ⟨hscript, ?_, ?_, ?_⟩
  · intro other htables hcanvas hconfigure
    have hother : (other.replay session catalog).2 = none :=
      stopped_replay_eq_none_iff.mpr (knows_of_canvasPart htables hcanvas hknown)
    exact replay_eq_of_parts htables hcanvas hconfigure hother hscript
  · intro other start htables hcanvas hstart
    have hother : (other.replay start catalog).2 = none :=
      stopped_replay_eq_none_iff.mpr (knows_of_canvasPart htables hcanvas hknown)
    apply Session.referenceTables_render_congr
    rw [session_replay hother, session_replay hscript, declaredTables_congr htables, hcanvas,
      hstart]
  · intro other start tables hotherKnown hconfigure hstart
    have hother : (other.replay start tables).2 = none :=
      stopped_replay_eq_none_iff.mpr hotherKnown
    apply Session.sections_render_congr
    rw [session_replay hother, session_replay hscript, hconfigure, hstart]

/-- Two tables that are configured between the actions that place and connect them. -/
def mixed : Script where
  tables :=
    [⟨"orders", OrderedMap.ofList [("customer", "integer"), ("total", "numeric")]⟩,
     ⟨"customers", OrderedMap.ofList [("id", "integer"), ("name", "text")]⟩]
  actions :=
    [.addTable "orders",
     .configure "orders" "total" { aggregation := some ⟨.sum, none⟩ },
     .addTable "customers",
     .connect "0-customer-source" "1-id-target",
     .configure "customers" "name" { sortBy := some ⟨.ascending, 1⟩ }]

/-- The fields are configured before the canvas has any tables, with the same outcome. The canvas
actions alone give the same reference tables, and the configurations alone the other sections. -/
theorem replay_interleaved_mixed :
    let start := Session.start {}
    let outcome := mixed.replay start []
    let spec := outcome.1.session.render
    let apart : Script :=
      ⟨mixed.tables, configurePart mixed.actions ++ canvasPart mixed.actions⟩
    let drawn : Script := ⟨mixed.tables, canvasPart mixed.actions⟩
    let configured : Script := ⟨[], configurePart mixed.actions⟩
    (∀ name, .addTable name ∈ mixed.actions → mixed.Knows [] name) ∧
      apart.actions ≠ mixed.actions ∧
      canvasPart apart.actions = canvasPart mixed.actions ∧
      configurePart apart.actions = configurePart mixed.actions ∧
      apart.replay start [] = outcome ∧
      (drawn.replay start.openExport []).1.session.render.referenceTables = spec.referenceTables ∧
      { (configured.replay start []).1.session.render with
        referenceTables := spec.referenceTables } = spec := by
  intro start outcome spec apart drawn configured
  have hknown : ∀ name, .addTable name ∈ mixed.actions → mixed.Knows [] name := by
    intro name hname
    have hname : name = "orders" ∨ name = "customers" := by simpa [mixed] using hname
    rcases hname with rfl | rfl
    · exact .inl ⟨_, List.mem_cons_self, rfl⟩
    · exact .inl ⟨_, List.mem_cons_of_mem _ List.mem_cons_self, rfl⟩
  have hconfigured : ∀ name, .addTable name ∈ configured.actions → configured.Knows [] name := by
    intro name hname
    simp [configured, configurePart, mixed, Action.isConfigure] at hname
  obtain ⟨-, hsame, hdrawn, hother⟩ := replay_interleaved start hknown
  refine ⟨hknown, by decide, rfl, rfl, hsame apart rfl rfl rfl, ?_, ?_⟩
  · exact hdrawn drawn start.openExport rfl rfl rfl
  · exact hother configured start [] hconfigured rfl rfl

end Script

end QueryCanvas
