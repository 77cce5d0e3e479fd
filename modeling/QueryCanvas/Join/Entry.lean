import QueryCanvas.Json.Decoder
import QueryCanvas.Directive.Basic

/-!
# Reference tables

A reference table entry brings a table into a query, alone or joined to another table on a pair of
columns.
-/

namespace QueryCanvas

/-- How a table is brought into a query. -/
inductive JoinType where
  | combine
deriving DecidableEq, Repr

namespace JoinType

/-- All ways. -/
def all : List JoinType :=
  [.combine]

/-- The name of the way. -/
def name : JoinType → String
  | .combine => "combine"

/-- A way is written by its name. -/
def toJson (t : JoinType) : Json :=
  .string t.name

/-- A way is read by its name. -/
def decoder : Json.Decoder JoinType :=
  .oneOf (all.map fun t => (t.name, t))

end JoinType

/-- A join to another table where the left column equals the right column. -/
structure JoinDescriptor where
  table : String
  leftColumn : String
  rightColumn : String
deriving DecidableEq, Repr

namespace JoinDescriptor

/-- A join as an object. -/
def toJson (j : JoinDescriptor) : Json :=
  .object
    [("table", .string j.table), ("leftColumn", .string j.leftColumn),
     ("rightColumn", .string j.rightColumn)]

/-- The slots of a join. -/
def slots : List Json.Slot :=
  [.required "table" .string, .required "leftColumn" .string, .required "rightColumn" .string]

/-- A join is read with all its parts. -/
def decoder : Json.Decoder JoinDescriptor :=
  (Json.Decoder.record "struct JoinDescriptor" slots).map fun (table, left, right, ()) =>
    ⟨table, left, right⟩

end JoinDescriptor

/-- A table of a query, with its join if it has one. -/
structure ReferenceEntry where
  name : String
  joinType : JoinType
  join : Option JoinDescriptor
deriving DecidableEq, Repr

namespace ReferenceEntry

/-- An entry without a join. -/
def bare (name : String) : ReferenceEntry :=
  ⟨name, .combine, none⟩

/-- An entry with a join. -/
def joined (name : String) (join : JoinDescriptor) : ReferenceEntry :=
  ⟨name, .combine, some join⟩

/-- An entry as an object. -/
def toJson (e : ReferenceEntry) : Json :=
  .object
    (("name", .string e.name) :: ("joinType", e.joinType.toJson)
      :: Json.optionalMember "join" JoinDescriptor.toJson e.join)

/-- The slots of an entry. -/
def slots : List Json.Slot :=
  [.required "name" .string, .required "joinType" JoinType.decoder,
   .withDefault "join" (.nullable JoinDescriptor.decoder) none]

/-- An entry is read with its name and join type; its join may be absent. -/
def decoder : Json.Decoder ReferenceEntry :=
  (Json.Decoder.record "struct ReferenceTableEntry" slots).map fun (name, joinType, join, ()) =>
    ⟨name, joinType, join⟩

end ReferenceEntry

end QueryCanvas
