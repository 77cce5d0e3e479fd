import QueryCanvas.Directive.Config
import QueryCanvas.Directive.Key

/-!
# Configuration panels

A panel edits a draft of one field's configuration. Its edits stay in the draft until the panel is
saved.
-/

namespace QueryCanvas

/-- An open panel: the key of its field and the draft. -/
structure Panel where
  key : FieldKey
  draft : FieldConfig
deriving DecidableEq, Repr

/-- One edit of a draft. -/
inductive Edit where
  | draft (config : FieldConfig)
  | included (value : Bool)
  | aliasName (value : Option String)
  | aggregation (value : Option Aggregation)
  | calculation (value : Option Calculation)
  | filter (value : Option Filter)
  | groupBy (value : Bool)
  | sortBy (value : Option SortBy)
deriving DecidableEq, Repr

/-- The configuration after an edit. -/
def FieldConfig.edit (config : FieldConfig) : Edit → FieldConfig
  | .draft other => other
  | .included value => { config with isIncluded := value }
  | .aliasName value => { config with aliasName := value }
  | .aggregation value => { config with aggregation := value }
  | .calculation value => { config with calculation := value }
  | .filter value => { config with filter := value }
  | .groupBy value => { config with groupBy := value }
  | .sortBy value => { config with sortBy := value }

/-- The panel after an edit of its draft. -/
def Panel.edit (panel : Panel) (e : Edit) : Panel :=
  { panel with draft := panel.draft.edit e }

end QueryCanvas
