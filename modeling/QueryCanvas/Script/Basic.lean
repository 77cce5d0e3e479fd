import QueryCanvas.Catalog.Structure
import QueryCanvas.Directive.Config
import QueryCanvas.Json.Writer

/-!
# Scripts

A script declares tables by their columns and lists the gestures to replay, in order.
-/

namespace QueryCanvas

/-- A table that a script declares. -/
structure ScriptTable where
  name : String
  columns : OrderedMap String String
deriving DecidableEq

namespace ScriptTable

/-- A declared table as an object. -/
def toJson (t : ScriptTable) : Json :=
  .object [("name", .string t.name), ("columns", TableStructure.mapJson .string t.columns)]

/-- The slots of a declared table. -/
def slots : List Json.Slot :=
  [.required "name" .string, .withDefault "columns" (.dictionary .string) .empty]

/-- A declared table is read with its name; absent columns are none. -/
def decoder : Json.Decoder ScriptTable :=
  (Json.Decoder.record "struct ScriptTable" slots).map fun (name, columns, ()) => ⟨name, columns⟩

/-- The typed table. -/
def toTable (t : ScriptTable) : Table :=
  Table.ofColumns t.name t.columns.entries

end ScriptTable

/-- One gesture of a script. -/
inductive Action where
  | addTable (table : String)
  | connect (source target : String)
  | configure (table field : String) (config : FieldConfig)
deriving DecidableEq, Repr

namespace Action

/-- A gesture as an object with one member. -/
def toJson : Action → Json
  | .addTable table => .object [("addTable", .object [("table", .string table)])]
  | .connect source target =>
      .object [("connect", .object [("source", .string source), ("target", .string target)])]
  | .configure table field config =>
      .object
        [("configure",
          .object [("table", .string table), ("field", .string field), ("config", config.toJson)])]

/-- The slots of the gesture that adds a table. -/
def addTableSlots : List Json.Slot :=
  [.required "table" .string]

/-- The slots of the gesture that connects two handles. -/
def connectSlots : List Json.Slot :=
  [.required "source" .string, .required "target" .string]

/-- The slots of the gesture that configures a field. -/
def configureSlots : List Json.Slot :=
  [.required "table" .string, .required "field" .string,
   .withDefault "config" FieldConfig.decoder FieldConfig.default]

/-- A gesture is read from an object whose only member names it. -/
def decoder : Json.Decoder Action :=
  .tagged
    [("addTable",
      (Json.Decoder.record "struct variant Action::AddTable" addTableSlots).map
        fun (table, ()) => .addTable table),
     ("connect",
      (Json.Decoder.record "struct variant Action::Connect" connectSlots).map
        fun (source, target, ()) => .connect source target),
     ("configure",
      (Json.Decoder.record "struct variant Action::Configure" configureSlots).map
        fun (table, field, config, ()) => .configure table field config)]

end Action

/-- Declared tables and gestures. -/
structure Script where
  tables : List ScriptTable
  actions : List Action
deriving DecidableEq

namespace Script

/-- A script as an object. -/
def toJson (s : Script) : Json :=
  .object
    [("tables", .array (s.tables.map ScriptTable.toJson)),
     ("actions", .array (s.actions.map Action.toJson))]

/-- The slots of a script. -/
def slots : List Json.Slot :=
  [.withDefault "tables" (.list ScriptTable.decoder) [],
   .withDefault "actions" (.list Action.decoder) []]

/-- A script is read; its absent parts are empty. -/
def decoder : Json.Decoder Script :=
  (Json.Decoder.record "struct Script" slots).map fun (tables, actions, ()) => ⟨tables, actions⟩

/-- Read the text of a script. -/
def parse (text : String) : Except Json.ReadError Script :=
  decoder.read text

/-- The text of a script. -/
def text (s : Script) : String :=
  s.toJson.compact

/-- The typed tables that the script declares. -/
def declaredTables (s : Script) : List Table :=
  s.tables.map ScriptTable.toTable

/-- The names of tables that gestures add, in order. -/
def addedNames (s : Script) : List String :=
  s.actions.filterMap fun
    | .addTable table => some table
    | _ => none

/-- Names that are not among those seen, each once, in order of first use. -/
def newNames (seen : List String) : List String → List String
  | [] => []
  | name :: names =>
      if name ∈ seen then newNames seen names else name :: newNames (name :: seen) names

/-- The names of added tables that the script does not declare, in order of first use. -/
def undeclaredTables (s : Script) : List String :=
  newNames (s.tables.map (·.name)) s.addedNames

end Script

end QueryCanvas
