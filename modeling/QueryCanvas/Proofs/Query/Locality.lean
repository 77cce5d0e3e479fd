import QueryCanvas.Fields.Store
import QueryCanvas.Proofs.Query.Priority

/-!
# Locality of compilation

The configuration of one field contributes its own entries to the compiled sections and does not
disturb those of the others. In the sections that keep configuration order the contributions stand
one after another (`compileEntries_concat`); in the sorted section an entry is put in at one place
(`compileEntries_sortsWith`). `compile_local` states both for one key among others, also after it
was saved again with another draft.
-/

namespace QueryCanvas

namespace Specification

/-- The sections that keep configuration order are those of three specifications, one after
another. -/
structure Concat (whole before own after : Specification) : Prop where
  includeFields :
    whole.includeFields = before.includeFields ++ own.includeFields ++ after.includeFields
  filters : whole.filters = before.filters ++ own.filters ++ after.filters
  calculations : whole.calculations = before.calculations ++ own.calculations ++ after.calculations
  aggregations : whole.aggregations = before.aggregations ++ own.aggregations ++ after.aggregations
  groupBy : whole.groupBy = before.groupBy ++ own.groupBy ++ after.groupBy

/-- The own specification has at most one sort entry, and the sort section of the whole is that of
the rest with this entry put in at one place. -/
structure SortsWith (whole own rest : Specification) : Prop where
  atMostOne : own.sortBy.length ≤ 1
  placed : ∃ front back, rest.sortBy = front ++ back ∧ whole.sortBy = front ++ own.sortBy ++ back

end Specification

/-- A configuration on its own, compiled without reference tables. -/
def compileOne (key : FieldKey) (config : FieldConfig) : Specification :=
  compile (OrderedMap.empty.insert key config) none []

theorem compileOne_eq (key : FieldKey) (config : FieldConfig) :
    compileOne key config = compileEntries [(key, config)] none [] := rfl

variable {inferred : Option (List ReferenceEntry)} {tableNames : List String}

/-- Compiling one configuration between others appends its contributions to those before it, and
those after it to these. -/
theorem compileEntries_concat (before after : List (FieldKey × FieldConfig)) (key : FieldKey)
    (config : FieldConfig) :
    (compileEntries (before ++ (key, config) :: after) inferred tableNames).Concat
      (compileEntries before inferred tableNames) (compileOne key config)
      (compileEntries after inferred tableNames) := by
  rw [compileOne_eq, List.append_cons]
  constructor <;> simp only [compileEntries, List.flatMap_append, List.filterMap_append]

/-- The sort section of one configuration is the entry that it contributes. -/
theorem sortBy_compileOne {key : FieldKey} {config : FieldConfig} {entry : Option SortEntry}
    (hsort : sortEntry? key config = entry) : (compileOne key config).sortBy = entry.toList := by
  rw [compileOne_eq]
  cases entry with
  | none => simp [compileEntries, hsort, sortByPriority]
  | some e => simp [compileEntries, hsort, sortByPriority, insertByPriority]

/-- Compiling one configuration between others puts its sort entry, if it has one, in at one place
of the sort entries of the others. -/
theorem compileEntries_sortsWith (before after : List (FieldKey × FieldConfig)) (key : FieldKey)
    (config : FieldConfig) :
    (compileEntries (before ++ (key, config) :: after) inferred tableNames).SortsWith
      (compileOne key config) (compileEntries (before ++ after) inferred tableNames) where
  atMostOne := by
    rw [sortBy_compileOne rfl]
    cases sortEntry? key config <;> simp
  placed := by
    rw [sortBy_compileOne rfl]
    cases hsort : sortEntry? key config with
    | none =>
        refine ⟨(compileEntries (before ++ after) inferred tableNames).sortBy, [], by simp, ?_⟩
        simp [compileEntries, hsort]
    | some e =>
        obtain ⟨front, back, hwithout, hwith⟩ := sortByPriority_cons_between
          (before.filterMap fun entry => sortEntry? entry.1 entry.2)
          (after.filterMap fun entry => sortEntry? entry.1 entry.2) e
        refine ⟨front, back, ?_, ?_⟩
        · show sortByPriority ((before ++ after).filterMap fun entry =>
            sortEntry? entry.1 entry.2) = front ++ back
          rw [List.filterMap_append]
          exact hwithout
        · show sortByPriority ((before ++ (key, config) :: after).filterMap fun entry =>
            sortEntry? entry.1 entry.2) = front ++ [e] ++ back
          rw [List.filterMap_append, List.filterMap_cons, hsort, hwith]
          simp

/-- Storing a known key replaces its value where it stands. -/
theorem insertEntry_append_cons {κ α : Type} [DecidableEq κ] {key : κ} {old value : α}
    {before after : List (κ × α)}
    (hdistinct : ((before ++ (key, old) :: after).map Prod.fst).Nodup) :
    insertEntry key value (before ++ (key, old) :: after) = before ++ (key, value) :: after := by
  induction before with
  | nil => simp [insertEntry]
  | cons entry before ih =>
      obtain ⟨k, v⟩ := entry
      rw [List.cons_append, List.map_cons, List.nodup_cons] at hdistinct
      have hne : k ≠ key := by
        rintro rfl
        exact hdistinct.1 (by simp)
      rw [List.cons_append, insertEntry, if_neg hne, ih hdistinct.2]
      rfl

/-- The configuration of one key never disturbs what the others contribute. In the sections that
keep configuration order, the entries of the key stand between those of the configurations before
and after it, and depend on the key and its configuration only. In the sort section the key has at
most one entry, and without it the others stand as if the key were not there. Saving the key again
with another draft changes its own entries only. The reference tables do not depend on the
configurations, and the list of joins is empty. -/
theorem compile_local {before after whole rest : FieldConfigs} {key : FieldKey}
    {config : FieldConfig}
    (hwhole : whole.entries = before.entries ++ (key, config) :: after.entries)
    (hrest : rest.entries = before.entries ++ after.entries) (draft : FieldConfig)
    (inferred : Option (List ReferenceEntry)) (tableNames : List String) :
    let spec (configs : FieldConfigs) := compile configs inferred tableNames
    let resaved := whole.save ⟨key, draft⟩
    (spec whole).Concat (spec before) (compileOne key config) (spec after) ∧
      (spec resaved).Concat (spec before) (compileOne key draft) (spec after) ∧
      (spec whole).SortsWith (compileOne key config) (spec rest) ∧
      (spec resaved).SortsWith (compileOne key draft) (spec rest) ∧
      ∀ other, (spec other).referenceTables = (spec whole).referenceTables ∧
        (spec other).joins = [] := by
  intro spec resaved
  have hresaved : resaved.entries = before.entries ++ (key, draft) :: after.entries := by
    show insertEntry key draft whole.entries = _
    have hdistinct := whole.distinct
    rw [hwhole] at hdistinct
    rw [hwhole]
    exact insertEntry_append_cons hdistinct
  simp only [spec, compile, hwhole, hrest, hresaved]
  refine ⟨?_, ?_, ?_, ?_, ?_⟩
  · exact compileEntries_concat before.entries after.entries key config
  · exact compileEntries_concat before.entries after.entries key draft
  · exact compileEntries_sortsWith before.entries after.entries key config
  · exact compileEntries_sortsWith before.entries after.entries key draft
  · intro other
    exact ⟨rfl, rfl⟩

/-- Configurations that sort by each of the keys, all with one priority. -/
def tied (keys : List FieldKey) : FieldConfigs :=
  OrderedMap.ofList (keys.map fun key => (key, { sortBy := some ⟨.ascending, 1⟩ }))

/-- The first two keys are written alike. -/
theorem compile_local_tied :
    (tied [⟨"sales.orders", "id"⟩, ⟨"sales", "orders.id"⟩, ⟨"sales", "total"⟩]).entries =
        (tied [⟨"sales.orders", "id"⟩]).entries ++
          (⟨"sales", "orders.id"⟩, { sortBy := some ⟨.ascending, 1⟩ }) ::
          (tied [⟨"sales", "total"⟩]).entries ∧
      (tied [⟨"sales.orders", "id"⟩, ⟨"sales", "total"⟩]).entries =
        (tied [⟨"sales.orders", "id"⟩]).entries ++ (tied [⟨"sales", "total"⟩]).entries ∧
      (compile (tied [⟨"sales.orders", "id"⟩, ⟨"sales", "orders.id"⟩, ⟨"sales", "total"⟩])
          none []).SortsWith
        (compileOne ⟨"sales", "orders.id"⟩ { sortBy := some ⟨.ascending, 1⟩ })
        (compile (tied [⟨"sales.orders", "id"⟩, ⟨"sales", "total"⟩]) none []) := by
  have hwhole :
      (tied [⟨"sales.orders", "id"⟩, ⟨"sales", "orders.id"⟩, ⟨"sales", "total"⟩]).entries =
        (tied [⟨"sales.orders", "id"⟩]).entries ++
          (⟨"sales", "orders.id"⟩, { sortBy := some ⟨.ascending, 1⟩ }) ::
          (tied [⟨"sales", "total"⟩]).entries := by decide
  have hrest : (tied [⟨"sales.orders", "id"⟩, ⟨"sales", "total"⟩]).entries =
      (tied [⟨"sales.orders", "id"⟩]).entries ++ (tied [⟨"sales", "total"⟩]).entries := by decide
  exact ⟨hwhole, hrest, (compile_local hwhole hrest {} none []).2.2.1⟩

end QueryCanvas
