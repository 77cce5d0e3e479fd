import QueryCanvas.Settings.Basic
import QueryCanvas.Toml.Reader

/-!
# Settings as a document

Settings are written as a TOML document with a table for each group. What the document does not say
has its default, and what is no setting is skipped.
-/

namespace QueryCanvas

namespace Settings

/-- The values of named settings in a table, each if it is there. A list gives them in order, and a
moment gives none. Other members of the table are skipped if they can be read. -/
def sections? (names : List String) : Toml.Value → Option (List (Option Toml.Value))
  | .table members =>
      if Toml.membersReadable (members.filter fun (name, _) => !names.contains name) then
        some (names.map (List.lookup · members))
      else none
  | .array items => some ((List.range names.length).map fun i => items[i]?)
  | .moment => some (names.map fun _ => none)
  | _ => none

/-- The value of a setting, or its default if it is not there. -/
def value? {α : Type} (read : Toml.Value → Option α) (otherwise : α) :
    Option Toml.Value → Option α
  | none => some otherwise
  | some v => read v

/-- The text of a setting. -/
def text? : Toml.Value → Option String
  | .string text => some text
  | _ => none

/-- The texts of a setting that is a list. -/
def texts? : Toml.Value → Option (List String)
  | .array items => items.mapM text?
  | _ => none

/-- The number of a setting. Whole numbers up to 64 bits are rounded to binary64. -/
def number? : Toml.Value → Option Float
  | .float bits => bits.map Float.ofBits
  | .integer n =>
      if Int64.minValue.toInt ≤ n ∧ n < UInt64.size then some (Float.ofInt n) else none
  | _ => none

/-- The services of the settings. -/
def services? (v : Toml.Value) : Option ServiceSettings := do
  match ← sections? [Service.data.setting, Service.api.setting] v with
  | [data, api] =>
      return ⟨← value? (text? · |>.map some) none data, ← value? (text? · |>.map some) none api⟩
  | _ => none

/-- The exports of the settings. -/
def exports? (v : Toml.Value) : Option ExportSettings := do
  let base : ExportSettings := {}
  match ← sections? ["directory", "file_name", "clipboard_command"] v with
  | [directory, fileName, command] =>
      return ⟨← value? text? base.directory directory,
          ← value? (text? · |>.map some) base.fileName fileName,
          ← value? (texts? · |>.map some) base.clipboardCommand command⟩
  | _ => none

/-- The layout of the settings. -/
def layout? (v : Toml.Value) : Option GridLayout := do
  let base : GridLayout := {}
  match ← sections? ["origin_x", "origin_y", "column_spacing", "row_spacing"] v with
  | [x, y, column, row] =>
      return ⟨← value? number? base.originX x, ← value? number? base.originY y,
          ← value? number? base.columnSpacing column, ← value? number? base.rowSpacing row⟩
  | _ => none

/-- The level of the log of the settings. -/
def logLevel? (v : Toml.Value) : Option String := do
  match ← sections? ["level"] v with
  | [level] => value? text? "info" level
  | _ => none

/-- The settings of a document. -/
def ofToml? (v : Toml.Value) : Option Settings := do
  match ← sections? ["services", "export", "layout", "logging"] v with
  | [services, exports, layout, logging] =>
      return ⟨← value? services? {} services, ← value? exports? {} exports,
          ← value? layout? {} layout, ← value? logLevel? "info" logging⟩
  | _ => none

/-- The settings that a text describes. -/
def ofText (text : String) : Except SettingsError Settings :=
  match Toml.read text >>= ofToml? with
  | some settings => .ok settings
  | none => .error .malformed

end Settings

end QueryCanvas
