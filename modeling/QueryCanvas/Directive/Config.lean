import QueryCanvas.Directive.Basic

/-!
# Field configurations

The directives that a user attaches to one field. A field that was never configured is included
and ungrouped, with every other directive unset; that is also what fills the gaps of a written
configuration.
-/

namespace QueryCanvas

/-- The directives of one field. -/
structure FieldConfig where
  isIncluded : Bool := true
  aliasName : Option String := none
  aggregation : Option Aggregation := none
  calculation : Option Calculation := none
  filter : Option Filter := none
  groupBy : Bool := false
  sortBy : Option SortBy := none
deriving DecidableEq, Repr

namespace FieldConfig

/-- The configuration of a field that was never configured. -/
def default : FieldConfig := {}

/-- A configuration that filters by a field without projecting it. -/
def filterOnly (filter : Filter) : FieldConfig :=
  { isIncluded := false, filter := some filter }

/-- The alias of the projection; a blank one counts as none. -/
def projectionAlias (c : FieldConfig) : Option String :=
  nonBlank? c.aliasName

/-- A configuration as an object; unset directives are left out. -/
def toJson (c : FieldConfig) : Json :=
  .object
    (("isIncluded", .bool c.isIncluded)
      :: (Json.optionalMember "alias" .string c.aliasName
        ++ (Json.optionalMember "aggregation" Aggregation.toJson c.aggregation
        ++ (Json.optionalMember "calculation" Calculation.toJson c.calculation
        ++ (Json.optionalMember "filter" Filter.toJson c.filter
        ++ (("groupBy", .bool c.groupBy)
          :: Json.optionalMember "sortBy" SortBy.toJson c.sortBy))))))

/-- The slots of a configuration. -/
def slots : List Json.Slot :=
  [.withDefault "isIncluded" .bool default.isIncluded,
   .withDefault "alias" (.nullable .string) default.aliasName,
   .withDefault "aggregation" (.nullable Aggregation.decoder) default.aggregation,
   .withDefault "calculation" (.nullable Calculation.decoder) default.calculation,
   .withDefault "filter" (.nullable Filter.decoder) default.filter,
   .withDefault "groupBy" .bool default.groupBy,
   .withDefault "sortBy" (.nullable SortBy.decoder) default.sortBy]

/-- A configuration is read; what is absent is as in the default. -/
def decoder : Json.Decoder FieldConfig :=
  (Json.Decoder.record "struct FieldConfig" slots).map
    fun (isIncluded, aliasName, aggregation, calculation, filter, groupBy, sortBy, ()) =>
      ⟨isIncluded, aliasName, aggregation, calculation, filter, groupBy, sortBy⟩

end FieldConfig

end QueryCanvas
