import Mathlib.Data.List.Forall2
import QueryCanvas.Query.Compile

/-!
# Alignment of the projections with the other lists

The projections, the aggregations and the calculations of a specification are the columns of one
table that has a row for each configuration. `Row.Matches` says what the row of a configuration
holds: its projections are spelled with the parts of its own aggregation and calculation entries, so
the lists cannot drift apart. `compile_aligned` gives the table for every compiled specification.
-/

namespace QueryCanvas

/-- What one configuration puts into the projections, the aggregations and the calculations. -/
structure Row where
  fields : List String
  aggregation : Option AggregationEntry
  calculation : Option CalculationEntry

/-- The projection of an included configuration, beside the aggregation entry that it comes with. An
aggregated one is spelled with the parts of its entry, whatever its plain alias is. -/
inductive Heads (key : FieldKey) (config : FieldConfig) : Option AggregationEntry → String → Prop
    where
  | aggregated {a : Aggregation} {e : AggregationEntry} :
      config.aggregation = some a → e.field = key.text → e.function = a.function →
      (∀ name, e.aliasName = some name ↔ a.aliasName = some name ∧ name ≠ "") →
      Heads key config (some e)
        (e.function.name ++ "(" ++ e.field ++ ") AS " ++
          e.aliasName.getD (e.function.name.toLower ++ "_" ++ key.field))
  | aliased {name : String} :
      config.aggregation = none → config.aliasName = some name → name ≠ "" →
      Heads key config none (key.text ++ " AS " ++ name)
  | plain :
      config.aggregation = none → (∀ name, config.aliasName = some name → name = "") →
      Heads key config none key.text

/-- The row holds what the configuration contributes. -/
structure Row.Matches (key : FieldKey) (config : FieldConfig) (row : Row) : Prop where
  /-- An excluded configuration is neither projected nor aggregated. -/
  excluded : config.isIncluded = false → row.fields = [] ∧ row.aggregation = none
  /-- An included one is projected once, and right after that its calculation entry is, if it has
  one. -/
  included : config.isIncluded = true → ∃ head, Heads key config row.aggregation head ∧
    row.fields = head ::
      (row.calculation.map fun e => e.expression ++ " AS " ++ e.aliasName).toList
  /-- The calculation entry is there exactly if both parts of the calculation are filled in, also
  for an excluded configuration. -/
  calculation : ∀ e, row.calculation = some e ↔
    config.calculation = some ⟨e.expression, e.aliasName⟩ ∧ e.expression ≠ "" ∧ e.aliasName ≠ ""

theorem nonBlank?_eq_some_iff {text : Option String} {name : String} :
    nonBlank? text = some name ↔ text = some name ∧ name ≠ "" := by
  simp [nonBlank?, Option.filter_eq_some_iff]

theorem nonBlank?_eq_none_iff {text : Option String} :
    nonBlank? text = none ↔ ∀ name, text = some name → name = "" := by
  simp [nonBlank?, Option.filter_eq_none_iff]

/-- The names of the functions are lowered letter by letter. -/
theorem AggregationFunction.lowercase_name (f : AggregationFunction) :
    Text.lowercase f.name = f.name.toLower := by
  cases f <;> decide +kernel

/-- The default alias is the function in lower case, and the column. -/
theorem AggregationFunction.defaultAlias_eq (f : AggregationFunction) (column : String) :
    f.defaultAlias column = f.name.toLower ++ "_" ++ column := by
  unfold AggregationFunction.defaultAlias
  rw [f.lowercase_name]

/-- A calculation is emitted exactly if both its parts are filled in. -/
theorem calculationEntry?_eq_some_iff (key : FieldKey) {config : FieldConfig}
    {e : CalculationEntry} :
    calculationEntry? key config = some e ↔
      config.calculation = some ⟨e.expression, e.aliasName⟩ ∧ e.expression ≠ "" ∧
        e.aliasName ≠ "" := by
  unfold calculationEntry? completeCalculation?
  rw [Option.map_eq_some_iff]
  constructor
  · rintro ⟨c, hcomplete, rfl⟩
    obtain ⟨hgiven, hfilled⟩ := Option.filter_eq_some_iff.mp hcomplete
    exact ⟨hgiven, by simpa [Calculation.isComplete] using hfilled⟩
  · rintro ⟨hgiven, hfilled⟩
    refine ⟨⟨e.expression, e.aliasName⟩, ?_, rfl⟩
    exact Option.filter_eq_some_iff.mpr ⟨hgiven, by simpa [Calculation.isComplete] using hfilled⟩

/-- The row of a configuration. -/
def contribution (key : FieldKey) (config : FieldConfig) : Row where
  fields := includedFields key config
  aggregation := aggregationEntry? key config
  calculation := calculationEntry? key config

/-- The projection of an included configuration stands beside its own aggregation entry. -/
theorem heads_projection (key : FieldKey) {config : FieldConfig}
    (hincluded : config.isIncluded = true) :
    Heads key config (contribution key config).aggregation (projection key config) := by
  unfold contribution aggregationEntry? projection
  rw [if_pos hincluded]
  cases haggregation : config.aggregation with
  | some a =>
      show Heads key config (some ⟨key.text, a.function, nonBlank? a.aliasName⟩)
        (a.function.name ++ "(" ++ key.text ++ ") AS " ++ a.resolvedAlias key.field)
      -- The alias of the entry decides whether the projection falls back on the default one.
      unfold Aggregation.resolvedAlias
      rw [AggregationFunction.defaultAlias_eq]
      exact .aggregated haggregation rfl rfl fun _ => nonBlank?_eq_some_iff
  | none =>
      cases halias : config.projectionAlias with
      | some name =>
          obtain ⟨hgiven, hfilled⟩ := nonBlank?_eq_some_iff.mp halias
          exact .aliased haggregation hgiven hfilled
      | none => exact .plain haggregation (nonBlank?_eq_none_iff.mp halias)

theorem contribution_matches (key : FieldKey) (config : FieldConfig) :
    (contribution key config).Matches key config where
  excluded := by
    intro hexcluded
    simp [contribution, includedFields, aggregationEntry?, hexcluded]
  included := by
    intro hincluded
    refine ⟨projection key config, heads_projection key hincluded, ?_⟩
    show includedFields key config = _
    unfold includedFields contribution calculationEntry?
    rw [if_pos hincluded, Option.map_map]
    rfl
  calculation := by
    intro e
    exact calculationEntry?_eq_some_iff key

/-- An emitted filter has a value. -/
theorem value_ne_of_filterEntry? {key : FieldKey} {config : FieldConfig} {e : FilterEntry}
    (h : filterEntry? key config = some e) : e.value ≠ "" := by
  obtain ⟨f, hfilled, rfl⟩ := Option.map_eq_some_iff.mp h
  simpa using (Option.filter_eq_some_iff.mp hfilled).2

/-- An emitted aggregation is without an alias rather than under a blank one. -/
theorem aliasName_ne_of_aggregationEntry? {key : FieldKey} {config : FieldConfig}
    {e : AggregationEntry} (h : aggregationEntry? key config = some e) :
    e.aliasName ≠ some "" := by
  unfold aggregationEntry? at h
  split at h
  · obtain ⟨a, -, rfl⟩ := Option.map_eq_some_iff.mp h
    intro hblank
    exact (nonBlank?_eq_some_iff.mp hblank).2 rfl
  · cases h

/-- The projections, aggregations and calculations of a compiled specification are the columns of
one table, with a row for each configuration, in their order. Nothing is emitted with a blank
alias, expression or filter value. -/
theorem compile_aligned (configs : FieldConfigs) (inferred : Option (List ReferenceEntry))
    (tableNames : List String) :
    let spec := compile configs inferred tableNames
    (∃ rows : List Row,
      List.Forall₂ (fun entry row => row.Matches entry.1 entry.2) configs.entries rows ∧
      spec.includeFields = rows.flatMap Row.fields ∧
      spec.aggregations = rows.filterMap Row.aggregation ∧
      spec.calculations = rows.filterMap Row.calculation) ∧
    (∀ e ∈ spec.aggregations, e.aliasName ≠ some "") ∧
    (∀ e ∈ spec.calculations, e.expression ≠ "" ∧ e.aliasName ≠ "") ∧
    ∀ e ∈ spec.filters, e.value ≠ "" := by
  intro spec
  refine ⟨⟨configs.entries.map fun entry => contribution entry.1 entry.2, ?_, ?_, ?_, ?_⟩,
    ?_, ?_, ?_⟩
  · rw [List.forall₂_map_right_iff, List.forall₂_same]
    intro entry _
    exact contribution_matches entry.1 entry.2
  · rw [List.flatMap_map]
    rfl
  · rw [List.filterMap_map]
    rfl
  · rw [List.filterMap_map]
    rfl
  · intro e he
    obtain ⟨entry, -, hentry⟩ := List.mem_filterMap.mp he
    exact aliasName_ne_of_aggregationEntry? hentry
  · intro e he
    obtain ⟨entry, -, hentry⟩ := List.mem_filterMap.mp he
    exact ((calculationEntry?_eq_some_iff entry.1).mp hentry).2
  · intro e he
    obtain ⟨entry, -, hentry⟩ := List.mem_filterMap.mp he
    exact value_ne_of_filterEntry? hentry

end QueryCanvas
