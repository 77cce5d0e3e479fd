import QueryCanvas.Table.Basic

/-!
# Catalog documents

The document in which a data service describes the tables of a data source: each table by its name
with the database type of each column, in document order. A name that comes again keeps its first
place and takes its last description.
-/

namespace QueryCanvas

/-- The columns of a table with their database types. -/
structure TableStructure where
  columns : OrderedMap String String
deriving DecidableEq

namespace TableStructure

/-- An object with one member for each entry of a map. -/
def mapJson {α : Type} (encode : α → Json) (m : OrderedMap String α) : Json :=
  .object (m.entries.map fun (name, x) => (name, encode x))

/-- A table structure as an object. -/
def toJson (t : TableStructure) : Json :=
  .object [("columns", mapJson .string t.columns)]

/-- The slots of a table structure. -/
def slots : List Json.Slot :=
  [.withDefault "columns" (.dictionary .string) .empty]

/-- A table structure is read; absent columns are none. -/
def decoder : Json.Decoder TableStructure :=
  (Json.Decoder.record "struct TableStructure" slots).map fun (columns, ()) => ⟨columns⟩

end TableStructure

/-- The tables of a data source. -/
structure Structure where
  tables : OrderedMap String TableStructure
deriving DecidableEq

namespace Structure

/-- A catalog document as an object. -/
def toJson (s : Structure) : Json :=
  .object [("tables", TableStructure.mapJson TableStructure.toJson s.tables)]

/-- The slots of a catalog document. -/
def slots : List Json.Slot :=
  [.withDefault "tables" (.dictionary TableStructure.decoder) .empty]

/-- A catalog document is read; absent tables are none. -/
def decoder : Json.Decoder Structure :=
  (Json.Decoder.record "struct DbStructure" slots).map fun (tables, ()) => ⟨tables⟩

/-- The typed tables of a catalog document. -/
def toTables (s : Structure) : List Table :=
  s.tables.entries.map fun (name, t) => Table.ofColumns name t.columns.entries

end Structure

end QueryCanvas
