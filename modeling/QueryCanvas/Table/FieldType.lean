import QueryCanvas.Json.Decoder
import QueryCanvas.Text.Lowercase
import QueryCanvas.Text.Search

/-!
# Field types

The type of a field decides how a table node shows it. `FieldType.ofColumn` derives it from the
name and the database type of a catalog column.
-/

namespace QueryCanvas

/-- The type of a field. A relation is never derived from a column. -/
inductive FieldType where
  | text
  | email
  | number
  | date
  | boolean
  | relation
deriving DecidableEq, Repr

namespace FieldType

/-- All field types. -/
def all : List FieldType :=
  [.text, .email, .number, .date, .boolean, .relation]

/-- The name of the type. -/
def name : FieldType → String
  | .text => "text"
  | .email => "email"
  | .number => "number"
  | .date => "date"
  | .boolean => "boolean"
  | .relation => "relation"

/-- The icon drawn next to a field. -/
def icon : FieldType → String
  | .text => "type"
  | .email => "mail"
  | .number => "hash"
  | .date => "calendar"
  | .boolean => "toggle-left"
  | .relation => "link"

/-- The color of the icon. -/
def color : FieldType → String
  | .text => "#64748b"
  | .email => "#0ea5e9"
  | .number => "#10b981"
  | .date => "#f59e0b"
  | .boolean => "#8b5cf6"
  | .relation => "#ef4444"

/-- Parts of database types that make a column numeric. -/
def numericParts : List String :=
  ["int", "decimal", "numeric", "real", "double"]

/-- The type of a catalog column: an email by its name, otherwise a date, a boolean or a number by
parts of its database type, in this order, otherwise a text. Case does not matter. -/
def ofColumn (column dbType : String) : FieldType :=
  let column := Text.lowercase column
  let dbType := Text.lowercase dbType
  if Text.contains column "email" then .email
  else if Text.contains dbType "date" || Text.contains dbType "timestamp" then .date
  else if Text.contains dbType "bool" then .boolean
  else if numericParts.any (Text.contains dbType) then .number
  else .text

/-- A type is written by its name. -/
def toJson (t : FieldType) : Json :=
  .string t.name

/-- A type is read by its name. -/
def decoder : Json.Decoder FieldType :=
  .oneOf (all.map fun t => (t.name, t))

end FieldType

end QueryCanvas
