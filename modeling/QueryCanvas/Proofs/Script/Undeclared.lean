import Mathlib.Data.List.Forall2
import QueryCanvas.Proofs.FirstOccurrences
import QueryCanvas.Proofs.Script.Replay

/-!
# Tables that a script does not declare

The undeclared tables are listed by one pass over the names that a script adds; a replay looks up
tables in another. Both agree: the table that stops a replay is the first one listed that the
catalog lacks (`Script.stopped_replay`), and of the catalog a replay reads nothing but the first
tables of the names listed (`Script.replay_congr`). `Script.undeclaredTables_decide` says so
together with what the list is and which tables the new nodes hold.
-/

namespace QueryCanvas

namespace Script

/-! ## New names -/

variable {seen names : List String} {name : String}

/-- The new names are those that were not seen, each once. -/
theorem newNames_eq_unseen (seen names : List String) :
    newNames seen names = unseen seen names := by
  induction names generalizing seen with
  | nil => rfl
  | cons first names ih => rw [newNames, unseen_cons, ih, ih]

theorem mem_newNames : name ∈ newNames seen names ↔ name ∈ names ∧ name ∉ seen := by
  rw [newNames_eq_unseen, mem_unseen]

/-- New names come in the order in which they first occur. -/
theorem newNames_pairwise :
    (newNames seen names).Pairwise fun a b => names.idxOf a < names.idxOf b := by
  rw [newNames_eq_unseen]
  exact pairwise_unseen seen names

/-- The first new name of a kind is the first name of that kind that was not seen. -/
theorem find?_newNames (kind : String → Bool) :
    (newNames seen names).find? kind =
      names.find? fun name => decide (name ∉ seen) && kind name := by
  rw [newNames_eq_unseen]
  exact find?_unseen seen names kind

end Script

namespace Replay

/-! ## The tables of a replay -/

variable {tables other : List Table} {r next : Replay} {action : Action} {actions : List Action}
  {name : String}

/-- A node is added for the table that an action adds, and no other. -/
theorem Step.nodes (h : r.Step tables action next) :
    (action.added? = none ∧ next.session.canvas.nodes = r.session.canvas.nodes) ∨
    ∃ name node, action.added? = some name ∧ firstTable? tables name = some node.table ∧
      next.session.canvas.nodes = r.session.canvas.nodes ++ [node] := by
  cases h with
  | added hfound => exact .inr ⟨_, _, rfl, hfound, rfl⟩
  | connected hdraw =>
      obtain ⟨s, t, -, -, rfl⟩ := Canvas.connect_eq_ok_iff.mp hdraw
      exact .inl ⟨rfl, rfl⟩
  | skipped | configured => exact .inl ⟨rfl, rfl⟩

/-- The table that stops a replay is not known. -/
theorem firstTable?_of_stopped (h : (run tables r actions).2 = some name) :
    firstTable? tables name = none := by
  rw [stopped_run] at h
  simpa using List.find?_some h

/-- Nodes are added for the tables that are added, up to the one that stops the replay. -/
theorem run_nodes (tables : List Table) (r : Replay) (actions : List Action) :
    ∃ added, (run tables r actions).1.session.canvas.nodes = r.session.canvas.nodes ++ added ∧
      List.Forall₂ (fun name node => firstTable? tables name = some node.table)
        ((actions.filterMap Action.added?).takeWhile fun name =>
          (run tables r actions).2 ≠ some name)
        added := by
  induction actions generalizing r with
  | nil => exact ⟨[], (List.append_nil _).symm, .nil⟩
  | cons action actions ih =>
      rcases r.step_cases tables action with ⟨next, hok, hstep⟩ | ⟨name, rfl, -, herror⟩
      · obtain ⟨later, hlater, htables⟩ := ih next
        rcases hstep.nodes with ⟨hnone, hsame⟩ | ⟨name, node, hname, hfound, hnodes⟩
        · refine ⟨later, ?_, ?_⟩
          · rw [run_cons_ok hok, hlater, hsame]
          · rw [run_cons_ok hok, List.filterMap_cons_none hnone]
            exact htables
        · -- The table of this node was found, so it is not the one that stops the replay.
          have hgoes : (run tables next actions).2 ≠ some name := by
            intro hstopped
            rw [firstTable?_of_stopped hstopped] at hfound
            cases hfound
          refine ⟨node :: later, ?_, ?_⟩
          · rw [run_cons_ok hok, hlater, hnodes, List.append_assoc]
            rfl
          · rw [run_cons_ok hok, List.filterMap_cons_some hname, List.takeWhile_cons,
              if_pos (decide_eq_true hgoes)]
            exact .cons hfound htables
      · refine ⟨[], ?_, ?_⟩
        · rw [run_cons_error herror, List.append_nil]
        · rw [run_cons_error herror]
          simp [Action.added?]

/-- An action reads the first table of the name that it adds. -/
theorem step_congr (h : ∀ name, action = .addTable name →
      firstTable? tables name = firstTable? other name) (r : Replay) :
    step tables r action = step other r action := by
  cases action with
  | addTable name =>
      have hname := h name rfl
      unfold firstTable? at hname
      rw [step, step, hname]
  | connect | configure => rfl

/-- A replay reads the first tables of the names that are added. -/
theorem run_congr (h : ∀ name, .addTable name ∈ actions →
      firstTable? tables name = firstTable? other name) (r : Replay) :
    run tables r actions = run other r actions := by
  induction actions generalizing r with
  | nil => rfl
  | cons action actions ih =>
      have hstep : step tables r action = step other r action := by
        refine step_congr ?_ r
        rintro name rfl
        exact h name List.mem_cons_self
      have hrest := ih fun name hname => h name (List.mem_cons_of_mem action hname)
      rw [run, run, hstep]
      cases step other r action with
      | ok next => exact hrest next
      | error name => rfl

end Replay

namespace Script

/-! ## Undeclared tables -/

variable {script : Script} {catalog other : List Table} {name : String} {table : Table}

/-- The table that a name stands for in a replay: the first one declared, or, for undeclared tables
only, the first one of the catalog. -/
inductive Supplies (script : Script) (catalog : List Table) (name : String) (table : Table) :
    Prop where
  | declared :
      firstTable? script.declaredTables name = some table → Supplies script catalog name table
  | fetched :
      name ∈ script.undeclaredTables → firstTable? catalog name = some table →
      Supplies script catalog name table

/-- A table is undeclared if it is added and not declared. -/
theorem mem_undeclaredTables :
    name ∈ script.undeclaredTables ↔
      .addTable name ∈ script.actions ∧ ¬ ∃ table ∈ script.tables, table.name = name := by
  have hnames : script.addedNames = script.actions.filterMap Action.added? := rfl
  rw [undeclaredTables, mem_newNames, hnames, Action.mem_added, List.mem_map]

/-- A name is not declared exactly if no table of it is found. -/
theorem firstTable?_declaredTables_isNone (script : Script) (name : String) :
    (firstTable? script.declaredTables name).isNone =
      decide (name ∉ script.tables.map (·.name)) := by
  rw [Bool.eq_iff_iff, decide_eq_true_iff, ← Option.not_isSome, Bool.not_eq_true',
    Bool.eq_false_iff, Ne, firstTable?_isSome_iff, exists_declaredTables_iff, List.mem_map]

/-- A table that is added is declared, or else undeclared. -/
theorem mem_undeclaredTables_of_none (hadded : .addTable name ∈ script.actions)
    (h : firstTable? script.declaredTables name = none) : name ∈ script.undeclaredTables := by
  refine mem_undeclaredTables.mpr ⟨hadded, ?_⟩
  rw [← exists_declaredTables_iff, ← firstTable?_isSome_iff, h]
  exact Bool.false_ne_true

/-- Undeclared tables come in the order in which they are first used. -/
theorem undeclaredTables_pairwise (script : Script) :
    script.undeclaredTables.Pairwise fun a b =>
      script.addedNames.idxOf a < script.addedNames.idxOf b :=
  newNames_pairwise

/-- The table that stops a replay is the first undeclared one that the catalog lacks. -/
theorem stopped_replay (script : Script) (session : Session) (catalog : List Table) :
    (script.replay session catalog).2 =
      script.undeclaredTables.find? fun name => (firstTable? catalog name).isNone := by
  calc
    _ = script.addedNames.find? fun name =>
          (firstTable? (script.declaredTables ++ catalog) name).isNone :=
      Replay.stopped_run _ _ _
    _ = script.addedNames.find? fun name =>
          decide (name ∉ script.tables.map (·.name)) && (firstTable? catalog name).isNone := by
      congr 1
      funext name
      rw [firstTable?_append, Option.isNone_or, firstTable?_declaredTables_isNone]
    _ = _ := (find?_newNames _).symm

/-- A table that is found is the one that the name stands for. -/
theorem supplies_of_found (hadded : .addTable name ∈ script.actions)
    (h : firstTable? (script.declaredTables ++ catalog) name = some table) :
    script.Supplies catalog name table := by
  rw [firstTable?_append] at h
  cases hdeclared : firstTable? script.declaredTables name with
  | some own =>
      rw [hdeclared] at h
      exact .declared (hdeclared.trans h)
  | none =>
      rw [hdeclared, Option.none_or] at h
      exact .fetched (mem_undeclaredTables_of_none hadded hdeclared) h

/-- Of the catalog, a replay reads the first tables of the undeclared names. -/
theorem replay_congr (session : Session)
    (h : ∀ name ∈ script.undeclaredTables, firstTable? catalog name = firstTable? other name) :
    script.replay session catalog = script.replay session other := by
  refine Replay.run_congr ?_ _
  intro name hadded
  rw [firstTable?_append, firstTable?_append]
  cases hdeclared : firstTable? script.declaredTables name with
  | some own => rfl
  | none => rw [h name (mem_undeclaredTables_of_none hadded hdeclared)]

/-- The undeclared tables decide what a replay asks of a catalog. They are the names that are added
and not declared, each once, in the order of their first use. A replay fails exactly if the catalog
lacks one of them, and names the first. The nodes are added for the names that come before, each
with the first table declared or, for undeclared names only, the first of the catalog. Catalogs with
the same first tables for the undeclared names cannot be told apart, and without undeclared names a
catalog need not be fetched. -/
theorem undeclaredTables_decide (script : Script) (session : Session) (catalog : List Table) :
    let listed := script.undeclaredTables
    let outcome := script.replay session catalog
    (listed.Nodup ∧
      listed.Pairwise (fun a b => script.addedNames.idxOf a < script.addedNames.idxOf b) ∧
      ∀ name, name ∈ listed ↔
        .addTable name ∈ script.actions ∧ ¬ ∃ table ∈ script.tables, table.name = name) ∧
    (outcome.2 = none ↔ ∀ name ∈ listed, ∃ table ∈ catalog, table.name = name) ∧
    outcome.2 = listed.find? (fun name => (firstTable? catalog name).isNone) ∧
    (∃ added, outcome.1.session.canvas.nodes = session.canvas.nodes ++ added ∧
      List.Forall₂ (fun name node => script.Supplies catalog name node.table)
        (script.addedNames.takeWhile fun name => outcome.2 ≠ some name) added) ∧
    (∀ other, (∀ name ∈ listed, firstTable? catalog name = firstTable? other name) →
      outcome = script.replay session other) ∧
    (listed = [] → outcome = script.replay session []) := by
  intro listed outcome
  have hstopped : outcome.2 = listed.find? fun name => (firstTable? catalog name).isNone :=
    stopped_replay script session catalog
  have horder := undeclaredTables_pairwise script
  have hcongr : ∀ other, (∀ name ∈ listed, firstTable? catalog name = firstTable? other name) →
      outcome = script.replay session other := fun other => replay_congr session
  refine ⟨⟨horder.imp ?_, horder, ?_⟩, ?_, hstopped, ?_, hcongr, ?_⟩
  · rintro a b hlt rfl
    exact Nat.lt_irrefl _ hlt
  · exact fun name => mem_undeclaredTables
  · rw [hstopped, List.find?_eq_none]
    simp only [Bool.not_eq_true, Option.isNone_eq_false_iff, firstTable?_isSome_iff]
  · obtain ⟨added, hnodes, htables⟩ :=
      Replay.run_nodes (script.declaredTables ++ catalog) ⟨session, {}⟩ script.actions
    have hadded : ∀ name ∈ script.addedNames.takeWhile fun name => outcome.2 ≠ some name,
        .addTable name ∈ script.actions := by
      intro name hname
      exact Action.mem_added.mp ((List.takeWhile_subset _) hname)
    refine ⟨added, hnodes, .imp ?_ ((List.forall₂_and_left _ _).mpr ⟨hadded, htables⟩)⟩
    rintro name node ⟨hname, hfound⟩
    exact supplies_of_found hname hfound
  · intro hnil
    refine hcongr [] ?_
    rw [hnil]
    intro name hname
    cases hname

/-- One table is declared twice. The others are not declared, and are used twice. -/
def repeated : Script where
  tables :=
    [⟨"orders", OrderedMap.empty.insert "id" "integer"⟩,
     ⟨"orders", OrderedMap.empty.insert "name" "text"⟩]
  actions :=
    [.addTable "stock", .addTable "orders", .addTable "ghost", .addTable "stock",
     .addTable "ghost"]

/-- A catalog with a table that the script declares, and with two tables of one name. -/
def shadowed : List Table :=
  [⟨"orders", []⟩, ⟨"stock", []⟩, ⟨"stock", [⟨"id", "id", .number, true, false⟩]⟩]

theorem undeclaredTables_decide_shadowed :
    let outcome := repeated.replay (Session.start {}) shadowed
    let own : Script := ⟨repeated.tables, [.addTable "orders"]⟩
    repeated.undeclaredTables = ["stock", "ghost"] ∧
      outcome.2 = some "ghost" ∧
      (∃ stock orders, outcome.1.session.canvas.nodes = [stock, orders] ∧
        repeated.Supplies shadowed "stock" stock.table ∧
        repeated.Supplies shadowed "orders" orders.table) ∧
      (∀ name ∈ repeated.undeclaredTables,
        firstTable? shadowed name = firstTable? [⟨"stock", []⟩] name) ∧
      outcome = repeated.replay (Session.start {}) [⟨"stock", []⟩] ∧
      own.undeclaredTables = [] ∧
      own.replay (Session.start {}) shadowed = own.replay (Session.start {}) [] := by
  intro outcome own
  have hlisted : repeated.undeclaredTables = ["stock", "ghost"] := by decide
  have hown : own.undeclaredTables = [] := by decide
  have hsame : ∀ name ∈ repeated.undeclaredTables,
      firstTable? shadowed name = firstTable? [⟨"stock", []⟩] name := by
    rw [hlisted]
    decide
  obtain ⟨-, -, hfirst, ⟨added, hnodes, htables⟩, hcongr, -⟩ :=
    undeclaredTables_decide repeated (Session.start {}) shadowed
  obtain ⟨-, -, -, -, -, hunfetched⟩ := undeclaredTables_decide own (Session.start {}) shadowed
  have hghost : outcome.2 = some "ghost" := by
    rw [hfirst, hlisted]
    decide
  have hbefore : (repeated.addedNames.takeWhile fun name => outcome.2 ≠ some name) =
      ["stock", "orders"] := by
    rw [hghost]
    decide
  rw [hbefore] at htables
  cases htables with
  | cons hstock hrest =>
    cases hrest with
    | cons horders hnil =>
      cases hnil
      exact ⟨hlisted, hghost, ⟨_, _, hnodes, hstock, horders⟩, hsame, hcongr _ hsame, hown,
        hunfetched hown⟩

end Script

end QueryCanvas
