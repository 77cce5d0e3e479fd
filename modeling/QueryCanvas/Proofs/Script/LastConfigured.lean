import Mathlib.Data.List.Induction
import QueryCanvas.Command.Run
import QueryCanvas.Proofs.Query.Emptiness
import QueryCanvas.Proofs.Script.Interleaving

/-!
# What a replay leaves configured

A replay performs the actions before the first one that adds an unknown table, and no others
(`Replay.run_performed`), so it leaves the session as they do, whether it stops or not. On a session
without configurations, each field then has the configuration that the last of these actions gives
it (`get?_saved_iff`). `isEmpty_exact` says when there is nothing to select, for any configurations
and after any replay.
-/

namespace QueryCanvas

/-! ## The last configuration of a field -/

/-- The configuration is the last one that actions give to the field of the key. -/
def LastConfigured (actions : List Action) (key : FieldKey) (config : FieldConfig) : Prop :=
  ∃ before after, actions = before ++ .configure key.table key.field config :: after ∧
    ∀ other, .configure key.table key.field other ∉ after

variable {actions : List Action} {action : Action} {key : FieldKey} {config : FieldConfig}
  {tables : List Table}

/-- The configuration is that of the last action, or else this one gives the field none. -/
theorem lastConfigured_concat_iff :
    LastConfigured (actions ++ [action]) key config ↔
      action = .configure key.table key.field config ∨
        (∀ other, action ≠ .configure key.table key.field other) ∧
          LastConfigured actions key config := by
  constructor
  · rintro ⟨before, after, hactions, hlast⟩
    rcases List.eq_nil_or_concat after with rfl | ⟨after, last, rfl⟩
    · obtain ⟨-, hsame⟩ := List.append_inj' hactions rfl
      exact .inl (List.singleton_inj.mp hsame)
    · have hparts : actions ++ [action] =
          (before ++ .configure key.table key.field config :: after) ++ [last] := by
        simpa using hactions
      obtain ⟨rfl, hsame⟩ := List.append_inj' hparts rfl
      obtain rfl := List.singleton_inj.mp hsame
      refine .inr ⟨?_, before, after, rfl, ?_⟩
      · rintro other rfl
        exact hlast other (by simp)
      · intro other hmem
        exact hlast other (by simp [hmem])
  · rintro (rfl | ⟨hother, before, after, rfl, hlast⟩)
    · exact ⟨actions, [], rfl, fun _ => List.not_mem_nil⟩
    · refine ⟨before, after ++ [action], by simp, ?_⟩
      intro other hmem
      rcases List.mem_append.mp hmem with hmem | hmem
      · exact hlast other hmem
      · exact hother other (List.mem_singleton.mp hmem).symm

/-- Saving the panels of actions stores the last configuration of each field. -/
theorem get?_saved_iff :
    ((actions.filterMap Action.panel?).foldl FieldConfigs.save .empty).get? key = some config ↔
      LastConfigured actions key config := by
  induction actions using List.reverseRecOn with
  | nil => simp [LastConfigured, OrderedMap.get?, OrderedMap.empty]
  | append_singleton actions action ih =>
      rw [lastConfigured_concat_iff, List.filterMap_append, List.foldl_append, ← ih]
      cases action with
      | configure table field draft =>
          show (OrderedMap.insert _ ⟨table, field⟩ draft).get? key = some config ↔ _
          rw [OrderedMap.get?_insert]
          by_cases hkey : key = ⟨table, field⟩
          · subst hkey
            simp
          · have hother : ∀ other,
                Action.configure table field draft ≠ .configure key.table key.field other := by
              rintro other ⟨⟩
              exact hkey rfl
            rw [if_neg hkey, or_iff_right (hother config), and_iff_right hother]
      | addTable | connect =>
          rw [or_iff_right (by simp), and_iff_right (by simp)]
          exact .rfl

/-! ## The actions that a replay performs -/

/-- The action adds no table, or one that is known. -/
def Action.isPerformed (tables : List Table) (action : Action) : Bool :=
  action.added?.all fun name => (firstTable? tables name).isSome

namespace Replay

/-- The actions before the first one that adds a table that is not known. -/
def performed (tables : List Table) (actions : List Action) : List Action :=
  actions.takeWhile (Action.isPerformed tables)

variable {r next : Replay}

/-- An action that takes a step is performed. -/
theorem Step.isPerformed (h : r.Step tables action next) : action.isPerformed tables = true := by
  cases h with
  | added hfound => simp [Action.isPerformed, Action.added?, hfound]
  | connected | skipped | configured => rfl

/-- A replay does what the performed actions do, and these do not stop. -/
theorem run_performed (tables : List Table) (r : Replay) (actions : List Action) :
    (run tables r (performed tables actions)).2 = none ∧
      (run tables r actions).1 = (run tables r (performed tables actions)).1 := by
  induction actions generalizing r with
  | nil => exact ⟨rfl, rfl⟩
  | cons action actions ih =>
      unfold performed at ih ⊢
      rcases r.step_cases tables action with ⟨next, hok, hstep⟩ | ⟨name, rfl, hnone, herror⟩
      · rw [List.takeWhile_cons_of_pos hstep.isPerformed, run_cons_ok hok, run_cons_ok hok]
        exact ih next
      · have hunknown : ¬ (Action.addTable name).isPerformed tables = true := by
          simp [Action.isPerformed, Action.added?, hnone]
        rw [List.takeWhile_cons_of_neg hunknown, run_cons_error herror]
        exact ⟨rfl, rfl⟩

/-- A replay saves the panels of the performed actions. -/
theorem fields_run (tables : List Table) (r : Replay) (actions : List Action) :
    (run tables r actions).1.session.fields =
      ((performed tables actions).filterMap Action.panel?).foldl FieldConfigs.save
        r.session.fields := by
  obtain ⟨hnone, hsame⟩ := run_performed tables r actions
  rw [hsame, run_parts hnone]

end Replay

/-- The actions of a script that a replay with a catalog performs. -/
def Script.performed (script : Script) (catalog : List Table) : List Action :=
  Replay.performed (script.declaredTables ++ catalog) script.actions

/-- A replay on a fresh session leaves something to select exactly if the last configuration of some
field contributes something. -/
theorem Script.isEmpty_render_eq_false_iff (script : Script) (layout : GridLayout)
    (catalog : List Table) :
    (script.replay (Session.start layout) catalog).1.session.render.isEmpty = false ↔
      ∃ key config, LastConfigured (script.performed catalog) key config ∧ config.Contributes := by
  have hfields : (script.replay (Session.start layout) catalog).1.session.fields =
      ((script.performed catalog).filterMap Action.panel?).foldl FieldConfigs.save .empty :=
    Replay.fields_run _ _ _
  unfold Session.render Session.compiled compileCanvas
  rw [isEmpty_compile_eq_false_iff, hfields]
  simp only [get?_saved_iff]

/-! ## The warning -/

/-- The warning about an empty specification is given exactly if it is empty; those about
connections read differently. -/
theorem Command.mem_warnings_iff (c : Compiled) :
    "warning: no fields are configured; the specification selects nothing" ∈ warnings c ↔
      c.specification.isEmpty = true := by
  have hother : ∀ text : String,
      "warning: connection " ++ text ≠
        "warning: no fields are configured; the specification selects nothing" := by
    intro text hsame
    have hletter := congrArg (fun line => line.toList[9]?) hsame
    simp at hletter
  unfold warnings
  cases c.specification.isEmpty with
  | true => simp
  | false => simp [String.append_assoc, hother]

/-! ## Exactness -/

/-- The warning about an empty specification is exact. Whatever the reference tables are, a compiled
specification is empty if and only if all configurations are idle. So a configuration under a new
key never empties it. After a replay on a fresh session, whether it stopped or not, the
specification is not empty if and only if the last configuration of some field contributes
something. The warning is given if and only if the specification is empty. -/
theorem isEmpty_exact :
    (∀ (configs : FieldConfigs) (inferred : Option (List ReferenceEntry))
      (tableNames : List String),
        (compile configs inferred tableNames).isEmpty = true ↔
          ∀ entry ∈ configs.entries, entry.2.Idle) ∧
    (∀ (configs : FieldConfigs) (inferred : Option (List ReferenceEntry))
      (tableNames : List String) (key : FieldKey) (config : FieldConfig), key ∉ configs.keys →
        (compile configs inferred tableNames).isEmpty = false →
          (compile (configs.insert key config) inferred tableNames).isEmpty = false) ∧
    (∀ (script : Script) (layout : GridLayout) (catalog : List Table),
      (script.replay (Session.start layout) catalog).1.session.render.isEmpty = false ↔
        ∃ key config,
          LastConfigured (script.performed catalog) key config ∧ config.Contributes) ∧
    ∀ c : Compiled,
      "warning: no fields are configured; the specification selects nothing" ∈
          Command.warnings c ↔ c.specification.isEmpty = true := by
  refine ⟨?_, ?_, ?_, Command.mem_warnings_iff⟩
  · intro configs inferred tableNames
    exact isEmpty_compile_iff
  · intro configs inferred tableNames key config hnew hfull
    exact isEmpty_compile_insert hnew hfull config
  · intro script layout catalog
    exact script.isEmpty_render_eq_false_iff layout catalog

/-- A field is grouped by and not projected. -/
def groupedOnly : FieldConfig where
  isIncluded := false
  groupBy := true

/-- An excluded field with half a calculation and a filter without a value. -/
def halfFilled : FieldConfig where
  isIncluded := false
  calculation := some ⟨"price * 2", ""⟩
  filter := some ⟨.like, ""⟩

/-- The first field is included at first. The grouping is taken back after an unknown table. -/
def takenBack : Script where
  tables := []
  actions :=
    [.configure "orders" "total" {},
     .configure "orders" "customer" groupedOnly,
     .configure "orders" "total" halfFilled,
     .addTable "ghost",
     .configure "orders" "customer" halfFilled]

theorem isEmpty_exact_takenBack :
    let customer : FieldKey := ⟨"orders", "customer"⟩
    let total : FieldKey := ⟨"orders", "total"⟩
    let grouped : FieldConfigs := OrderedMap.empty.insert customer groupedOnly
    let idle : FieldConfigs := OrderedMap.empty.insert total halfFilled
    (∀ entry ∈ idle.entries, entry.2.Idle) ∧ (compile idle none ["orders"]).isEmpty = true ∧
      total ∉ grouped.keys ∧ (compile grouped none []).isEmpty = false ∧
      (compile (grouped.insert total halfFilled) none []).isEmpty = false ∧
      LastConfigured (takenBack.performed []) customer groupedOnly ∧
      (takenBack.replay (Session.start {}) []).1.session.render.isEmpty = false := by
  intro customer total grouped idle
  obtain ⟨hcompiled, hadded, hreplayed, -⟩ := isEmpty_exact
  have hidle : ∀ entry ∈ idle.entries, entry.2.Idle := by
    intro entry hentry
    rw [List.mem_singleton.mp hentry]
    refine ⟨rfl, ?_, ?_, rfl, rfl⟩
    · rintro _ ⟨⟩
      exact .inr rfl
    · rintro _ ⟨⟩
      rfl
  have hnew : total ∉ grouped.keys := by decide
  have hfull : (compile grouped none []).isEmpty = false := by decide
  -- The performed actions are the first three.
  have hlast : LastConfigured (takenBack.performed []) customer groupedOnly :=
    ⟨[.configure "orders" "total" {}], [.configure "orders" "total" halfFilled], rfl,
      by simp [customer]⟩
  exact ⟨hidle, (hcompiled idle none ["orders"]).mpr hidle, hnew, hfull,
    hadded grouped none [] total halfFilled hnew hfull, hlast,
    (hreplayed takenBack {} []).mpr ⟨customer, groupedOnly, hlast, .grouped rfl⟩⟩

end QueryCanvas
