import QueryCanvas.Json.Decoder
import QueryCanvas.Text.Lowercase

/-!
# Directives of a field

A field can be aggregated, computed with, filtered and sorted by. A blank alias counts as none
(`nonBlank?`), and a calculation counts once both its expression and its alias are filled in.
-/

namespace QueryCanvas

/-- A text that is there and not empty. -/
def nonBlank? (text : Option String) : Option String :=
  text.filter (· ≠ "")

/-- A member for a value that is set, no member otherwise. -/
def Json.optionalMember {α : Type} (name : String) (encode : α → Json) :
    Option α → List (String × Json)
  | some x => [(name, encode x)]
  | none => []

/-! ## Aggregations -/

/-- An aggregate function. -/
inductive AggregationFunction where
  | count
  | sum
  | avg
  | min
  | max
  | distinct
deriving DecidableEq, Repr

namespace AggregationFunction

/-- All aggregate functions. -/
def all : List AggregationFunction :=
  [.count, .sum, .avg, .min, .max, .distinct]

/-- The name of the function. -/
def name : AggregationFunction → String
  | .count => "COUNT"
  | .sum => "SUM"
  | .avg => "AVG"
  | .min => "MIN"
  | .max => "MAX"
  | .distinct => "DISTINCT"

/-- The alias of an aggregated field that was given none. -/
def defaultAlias (f : AggregationFunction) (field : String) : String :=
  Text.lowercase f.name ++ "_" ++ field

/-- A function is written by its name. -/
def toJson (f : AggregationFunction) : Json :=
  .string f.name

/-- A function is read by its name. -/
def decoder : Json.Decoder AggregationFunction :=
  .oneOf (all.map fun f => (f.name, f))

end AggregationFunction

/-- An aggregate function with an optional alias. -/
structure Aggregation where
  function : AggregationFunction
  aliasName : Option String
deriving DecidableEq, Repr

namespace Aggregation

/-- The alias under which the aggregated field is projected. -/
def resolvedAlias (a : Aggregation) (field : String) : String :=
  (nonBlank? a.aliasName).getD (a.function.defaultAlias field)

/-- An aggregation as an object. -/
def toJson (a : Aggregation) : Json :=
  .object (("type", a.function.toJson) :: Json.optionalMember "alias" .string a.aliasName)

/-- The slots of an aggregation. -/
def slots : List Json.Slot :=
  [.required "type" AggregationFunction.decoder,
   .withDefault "alias" (.nullable .string) none]

/-- An aggregation is read with its function; its alias may be absent. -/
def decoder : Json.Decoder Aggregation :=
  (Json.Decoder.record "struct Aggregation" slots).map fun (function, aliasName, ()) =>
    ⟨function, aliasName⟩

end Aggregation

/-! ## Calculations -/

/-- A computed column: an expression under an alias. -/
structure Calculation where
  expression : String
  aliasName : String
deriving DecidableEq, Repr

namespace Calculation

/-- Both parts are filled in. -/
def isComplete (c : Calculation) : Bool :=
  c.expression != "" && c.aliasName != ""

/-- A calculation as an object. -/
def toJson (c : Calculation) : Json :=
  .object [("expression", .string c.expression), ("alias", .string c.aliasName)]

/-- The slots of a calculation. -/
def slots : List Json.Slot :=
  [.withDefault "expression" .string "", .withDefault "alias" .string ""]

/-- A calculation is read; its absent parts are empty. -/
def decoder : Json.Decoder Calculation :=
  (Json.Decoder.record "struct Calculation" slots).map fun (expression, aliasName, ()) =>
    ⟨expression, aliasName⟩

end Calculation

/-! ## Filters -/

/-- A comparison of a filter. -/
inductive FilterOperator where
  | equal
  | notEqual
  | greater
  | less
  | greaterOrEqual
  | lessOrEqual
  | like
  | isIn
  | notIn
deriving DecidableEq, Repr

namespace FilterOperator

/-- All comparisons. -/
def all : List FilterOperator :=
  [.equal, .notEqual, .greater, .less, .greaterOrEqual, .lessOrEqual, .like, .isIn, .notIn]

/-- The sign of the comparison. -/
def sign : FilterOperator → String
  | .equal => "="
  | .notEqual => "!="
  | .greater => ">"
  | .less => "<"
  | .greaterOrEqual => ">="
  | .lessOrEqual => "<="
  | .like => "LIKE"
  | .isIn => "IN"
  | .notIn => "NOT IN"

/-- A comparison is written by its sign. -/
def toJson (o : FilterOperator) : Json :=
  .string o.sign

/-- A comparison is read by its sign. -/
def decoder : Json.Decoder FilterOperator :=
  .oneOf (all.map fun o => (o.sign, o))

end FilterOperator

/-- A comparison with a value. -/
structure Filter where
  operator : FilterOperator
  value : String
deriving DecidableEq, Repr

namespace Filter

/-- A filter as an object. -/
def toJson (f : Filter) : Json :=
  .object [("operator", f.operator.toJson), ("value", .string f.value)]

/-- The slots of a filter. -/
def slots : List Json.Slot :=
  [.required "operator" FilterOperator.decoder, .withDefault "value" .string ""]

/-- A filter is read with its comparison; an absent value is empty. -/
def decoder : Json.Decoder Filter :=
  (Json.Decoder.record "struct Filter" slots).map fun (operator, value, ()) => ⟨operator, value⟩

end Filter

/-! ## Sorting -/

/-- A direction of sorting. -/
inductive SortDirection where
  | ascending
  | descending
deriving DecidableEq, Repr

namespace SortDirection

/-- All directions. -/
def all : List SortDirection :=
  [.ascending, .descending]

/-- The name of the direction. -/
def name : SortDirection → String
  | .ascending => "ASC"
  | .descending => "DESC"

/-- A direction is written by its name. -/
def toJson (d : SortDirection) : Json :=
  .string d.name

/-- A direction is read by its name. -/
def decoder : Json.Decoder SortDirection :=
  .oneOf (all.map fun d => (d.name, d))

end SortDirection

/-- A place in the sort order: lower priorities sort first. -/
structure SortBy where
  direction : SortDirection
  priority : Int32
deriving DecidableEq, Repr

namespace SortBy

/-- A sort directive as an object. -/
def toJson (s : SortBy) : Json :=
  .object [("direction", s.direction.toJson), ("priority", .int s.priority.toInt)]

/-- The slots of a sort directive. -/
def slots : List Json.Slot :=
  [.required "direction" SortDirection.decoder, .withDefault "priority" .int32 0]

/-- A sort directive is read with its direction; an absent priority is zero. -/
def decoder : Json.Decoder SortBy :=
  (Json.Decoder.record "struct SortBy" slots).map fun (direction, priority, ()) =>
    ⟨direction, priority⟩

end SortBy

end QueryCanvas
