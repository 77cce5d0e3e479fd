import QueryCanvas.Canvas.Basic
import QueryCanvas.Directive.Config
import QueryCanvas.Directive.Key
import QueryCanvas.Join.Inference
import QueryCanvas.OrderedMap
import QueryCanvas.Query.Specification

/-!
# Compiling a query

Each section of a specification collects what the configurations contribute, in the order of the
configurations; the sort entries are then put in the order of their priorities, those of equal
priority in configuration order. Filters, groupings, sort entries and calculations are collected
from excluded fields too.
-/

namespace QueryCanvas

/-- The configurations of fields, in the order in which their keys were first saved. -/
abbrev FieldConfigs := OrderedMap FieldKey FieldConfig

/-- The projection of an included field: aggregated, under an alias, or plain. -/
def projection (key : FieldKey) (config : FieldConfig) : String :=
  match config.aggregation with
  | some a =>
      a.function.name ++ "(" ++ key.text ++ ") AS " ++ a.resolvedAlias key.field
  | none =>
      match config.projectionAlias with
      | some aliasName => key.text ++ " AS " ++ aliasName
      | none => key.text

/-- The calculation of a configuration, once it is complete. -/
def completeCalculation? (config : FieldConfig) : Option Calculation :=
  config.calculation.filter Calculation.isComplete

/-- The projection of a calculation. -/
def Calculation.projection (c : Calculation) : String :=
  c.expression ++ " AS " ++ c.aliasName

/-- The projections that one configuration contributes. -/
def includedFields (key : FieldKey) (config : FieldConfig) : List String :=
  if config.isIncluded then
    projection key config :: ((completeCalculation? config).map Calculation.projection).toList
  else []

/-- The aggregation that one configuration contributes. -/
def aggregationEntry? (key : FieldKey) (config : FieldConfig) : Option AggregationEntry :=
  if config.isIncluded then
    config.aggregation.map fun a => ⟨key.text, a.function, nonBlank? a.aliasName⟩
  else none

/-- The calculation that one configuration contributes. -/
def calculationEntry? (_ : FieldKey) (config : FieldConfig) : Option CalculationEntry :=
  (completeCalculation? config).map fun c => ⟨c.expression, c.aliasName⟩

/-- The filter that one configuration contributes. -/
def filterEntry? (key : FieldKey) (config : FieldConfig) : Option FilterEntry :=
  (config.filter.filter (·.value ≠ "")).map fun f => ⟨key.text, f.operator, f.value⟩

/-- The grouping that one configuration contributes. -/
def grouping? (key : FieldKey) (config : FieldConfig) : Option String :=
  if config.groupBy then some key.text else none

/-- The sort entry that one configuration contributes. -/
def sortEntry? (key : FieldKey) (config : FieldConfig) : Option SortEntry :=
  config.sortBy.map fun s => ⟨key.text, s.direction, s.priority⟩

/-- Put an entry into sorted entries, before those of the same priority. -/
def insertByPriority (e : SortEntry) : List SortEntry → List SortEntry
  | [] => [e]
  | f :: rest =>
      if e.priority ≤ f.priority then e :: f :: rest else f :: insertByPriority e rest

/-- The entries by priority; entries of the same priority keep their order. -/
def sortByPriority (entries : List SortEntry) : List SortEntry :=
  entries.foldr insertByPriority []

/-- The reference tables of a specification: what was inferred, or a bare entry a table. -/
def referenceTables (inferred : Option (List ReferenceEntry)) (tableNames : List String) :
    List ReferenceEntry :=
  inferred.getD (tableNames.map ReferenceEntry.bare)

/-- Compile entries of keys and configurations. -/
def compileEntries (configs : List (FieldKey × FieldConfig))
    (inferred : Option (List ReferenceEntry)) (tableNames : List String) : Specification where
  includeFields := configs.flatMap fun (key, config) => includedFields key config
  referenceTables := referenceTables inferred tableNames
  joins := []
  filters := configs.filterMap fun (key, config) => filterEntry? key config
  calculations := configs.filterMap fun (key, config) => calculationEntry? key config
  aggregations := configs.filterMap fun (key, config) => aggregationEntry? key config
  groupBy := configs.filterMap fun (key, config) => grouping? key config
  sortBy := sortByPriority (configs.filterMap fun (key, config) => sortEntry? key config)

/-- Compile configurations. -/
def compile (configs : FieldConfigs) (inferred : Option (List ReferenceEntry))
    (tableNames : List String) : Specification :=
  compileEntries configs.entries inferred tableNames

/-- A compiled diagram: its specification and the connections that were dropped. -/
structure Compiled where
  specification : Specification
  dropped : List Dropped

/-- Infer the joins of a canvas and compile the configurations with them. -/
def compileCanvas (canvas : Canvas) (configs : FieldConfigs) : Compiled :=
  let inference := inferJoins canvas.nodes canvas.connections
  ⟨compile configs (some inference.entries) canvas.tableNames, inference.dropped⟩

end QueryCanvas
