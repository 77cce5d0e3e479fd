import QueryCanvas.Fields.Panel
import QueryCanvas.Query.Compile

/-!
# The store of configurations

The store holds one configuration for each key that was ever saved, in the order of the first
saves. Saving replaces the whole configuration of a key and keeps its place.
-/

namespace QueryCanvas.FieldConfigs

/-- Open a panel on a key, with the stored configuration or the default one. -/
def openPanel (store : FieldConfigs) (key : FieldKey) : Panel :=
  ⟨key, (store.get? key).getD FieldConfig.default⟩

/-- Save the draft of a panel. -/
def save (store : FieldConfigs) (panel : Panel) : FieldConfigs :=
  store.insert panel.key panel.draft

end QueryCanvas.FieldConfigs
