import QueryCanvas.Table.FieldType

/-!
# Tables

A table has a name and fields in column order. Fields made from columns are keyed by the column
name: a column named `id` is the primary key, and any other column whose name ends in `_id` is a
foreign key.
-/

namespace QueryCanvas

/-- A column of a table, typed for display. -/
structure Field where
  id : String
  name : String
  type : FieldType
  isPrimaryKey : Bool
  isForeignKey : Bool
deriving DecidableEq, Repr

namespace Field

/-- The field of a catalog column. -/
def ofColumn (column dbType : String) : Field where
  id := column
  name := column
  type := FieldType.ofColumn column dbType
  isPrimaryKey := column == "id"
  isForeignKey := column != "id" && Text.endsWith column "_id"

/-- A field as an object. -/
def toJson (f : Field) : Json :=
  .object
    [("id", .string f.id), ("name", .string f.name), ("type", f.type.toJson),
     ("isPrimaryKey", .bool f.isPrimaryKey), ("isForeignKey", .bool f.isForeignKey)]

/-- The slots of a field. -/
def slots : List Json.Slot :=
  [.required "id" .string, .required "name" .string, .required "type" FieldType.decoder,
   .required "isPrimaryKey" .bool, .required "isForeignKey" .bool]

/-- A field is read with all its parts. -/
def decoder : Json.Decoder Field :=
  (Json.Decoder.record "struct Field" slots).map
    fun (id, name, type, isPrimaryKey, isForeignKey, ()) =>
      ⟨id, name, type, isPrimaryKey, isForeignKey⟩

end Field

/-- A table that can be placed on the canvas. -/
structure Table where
  name : String
  fields : List Field
deriving DecidableEq, Repr

namespace Table

/-- A table from pairs of a column name and its database type. -/
def ofColumns (name : String) (columns : List (String × String)) : Table :=
  ⟨name, columns.map fun (column, dbType) => Field.ofColumn column dbType⟩

/-- The first field with the id. -/
def field? (t : Table) (id : String) : Option Field :=
  t.fields.find? (·.id == id)

/-- The first field that is a primary key. -/
def primaryKey? (t : Table) : Option Field :=
  t.fields.find? (·.isPrimaryKey)

/-- A table as an object. -/
def toJson (t : Table) : Json :=
  .object [("name", .string t.name), ("fields", .array (t.fields.map Field.toJson))]

/-- The slots of a table. -/
def slots : List Json.Slot :=
  [.required "name" .string, .required "fields" (.list Field.decoder)]

/-- A table is read with all its parts. -/
def decoder : Json.Decoder Table :=
  (Json.Decoder.record "struct Table" slots).map fun (name, fields, ()) => ⟨name, fields⟩

end Table

end QueryCanvas
