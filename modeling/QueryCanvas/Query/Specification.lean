import QueryCanvas.Join.Entry

/-!
# Query specifications

The document that the execution service consumes: projections, reference tables, and the entries
that filters, calculations, aggregations, groupings and sort directives give. The list of joins is
reserved and may hold any values.
-/

namespace QueryCanvas

/-- A filter on a field. -/
structure FilterEntry where
  field : String
  operator : FilterOperator
  value : String
deriving DecidableEq, Repr

namespace FilterEntry

/-- A filter entry as an object. -/
def toJson (e : FilterEntry) : Json :=
  .object
    [("field", .string e.field), ("operator", e.operator.toJson), ("value", .string e.value)]

/-- The slots of a filter entry. -/
def slots : List Json.Slot :=
  [.required "field" .string, .required "operator" FilterOperator.decoder,
   .required "value" .string]

/-- A filter entry is read with all its parts. -/
def decoder : Json.Decoder FilterEntry :=
  (Json.Decoder.record "struct FilterEntry" slots).map fun (field, operator, value, ()) =>
    ⟨field, operator, value⟩

end FilterEntry

/-- A computed column. -/
structure CalculationEntry where
  expression : String
  aliasName : String
deriving DecidableEq, Repr

namespace CalculationEntry

/-- A calculation entry as an object. -/
def toJson (e : CalculationEntry) : Json :=
  .object [("expression", .string e.expression), ("alias", .string e.aliasName)]

/-- The slots of a calculation entry. -/
def slots : List Json.Slot :=
  [.required "expression" .string, .required "alias" .string]

/-- A calculation entry is read with all its parts. -/
def decoder : Json.Decoder CalculationEntry :=
  (Json.Decoder.record "struct CalculationEntry" slots).map fun (expression, aliasName, ()) =>
    ⟨expression, aliasName⟩

end CalculationEntry

/-- An aggregated field. -/
structure AggregationEntry where
  field : String
  function : AggregationFunction
  aliasName : Option String
deriving DecidableEq, Repr

namespace AggregationEntry

/-- An aggregation entry as an object. -/
def toJson (e : AggregationEntry) : Json :=
  .object
    (("field", .string e.field) :: ("function", e.function.toJson)
      :: Json.optionalMember "alias" .string e.aliasName)

/-- The slots of an aggregation entry. -/
def slots : List Json.Slot :=
  [.required "field" .string, .required "function" AggregationFunction.decoder,
   .withDefault "alias" (.nullable .string) none]

/-- An aggregation entry is read with its field and function; its alias may be absent. -/
def decoder : Json.Decoder AggregationEntry :=
  (Json.Decoder.record "struct AggregationEntry" slots).map fun (field, function, aliasName, ()) =>
    ⟨field, function, aliasName⟩

end AggregationEntry

/-- A field to sort by. -/
structure SortEntry where
  field : String
  direction : SortDirection
  priority : Int32
deriving DecidableEq, Repr

namespace SortEntry

/-- A sort entry as an object. -/
def toJson (e : SortEntry) : Json :=
  .object
    [("field", .string e.field), ("direction", e.direction.toJson),
     ("priority", .int e.priority.toInt)]

/-- The slots of a sort entry. -/
def slots : List Json.Slot :=
  [.required "field" .string, .required "direction" SortDirection.decoder,
   .required "priority" .int32]

/-- A sort entry is read with all its parts. -/
def decoder : Json.Decoder SortEntry :=
  (Json.Decoder.record "struct SortEntry" slots).map fun (field, direction, priority, ()) =>
    ⟨field, direction, priority⟩

end SortEntry

/-- The specification of a query. -/
structure Specification where
  includeFields : List String
  referenceTables : List ReferenceEntry
  joins : List Json
  filters : List FilterEntry
  calculations : List CalculationEntry
  aggregations : List AggregationEntry
  groupBy : List String
  sortBy : List SortEntry
deriving DecidableEq

namespace Specification

/-- Nothing is projected, filtered, computed, aggregated, grouped or sorted. -/
def isEmpty (s : Specification) : Bool :=
  s.includeFields.isEmpty && s.filters.isEmpty && s.calculations.isEmpty
    && s.aggregations.isEmpty && s.groupBy.isEmpty && s.sortBy.isEmpty

/-- A specification as an object. -/
def toJson (s : Specification) : Json :=
  .object
    [("includeFields", .array (s.includeFields.map .string)),
     ("referenceTables", .array (s.referenceTables.map ReferenceEntry.toJson)),
     ("joins", .array s.joins),
     ("filters", .array (s.filters.map FilterEntry.toJson)),
     ("calculations", .array (s.calculations.map CalculationEntry.toJson)),
     ("aggregations", .array (s.aggregations.map AggregationEntry.toJson)),
     ("groupBy", .array (s.groupBy.map .string)),
     ("sortBy", .array (s.sortBy.map SortEntry.toJson))]

/-- The slots of a specification. -/
def slots : List Json.Slot :=
  [.required "includeFields" (.list .string),
   .required "referenceTables" (.list ReferenceEntry.decoder),
   .required "joins" (.list .any),
   .required "filters" (.list FilterEntry.decoder),
   .required "calculations" (.list CalculationEntry.decoder),
   .required "aggregations" (.list AggregationEntry.decoder),
   .required "groupBy" (.list .string),
   .required "sortBy" (.list SortEntry.decoder)]

/-- A specification is read with all its parts. -/
def decoder : Json.Decoder Specification :=
  (Json.Decoder.record "struct QuerySpecification" slots).map
    fun (includeFields, referenceTables, joins, filters, calculations, aggregations, groupBy,
        sortBy, ()) =>
      ⟨includeFields, referenceTables, joins, filters, calculations, aggregations, groupBy, sortBy⟩

/-- The envelope of a specification: an object that holds it as its request. -/
def envelope (s : Specification) : Json :=
  .object [("request", s.toJson)]

/-- The slots of an envelope. -/
def envelopeSlots : List Json.Slot :=
  [.required "request" decoder]

/-- The specification inside an envelope. -/
def envelopeDecoder : Json.Decoder Specification :=
  (Json.Decoder.record "struct QueryEnvelope" envelopeSlots).map fun (s, ()) => s

end Specification

end QueryCanvas
