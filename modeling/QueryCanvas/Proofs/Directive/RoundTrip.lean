import QueryCanvas.Directive.Config
import QueryCanvas.Proofs.Json.RoundTrip

/-!
# Written directives are read back

The directives of a field and its whole configuration (`FieldConfig.roundTrips`) are read back as
they are written, in whatever texts and with whatever unset.
-/

namespace QueryCanvas

open Json

theorem AggregationFunction.roundTrips : RoundTrips decoder toJson 1 :=
  .oneOf fun f => by cases f <;> rfl

theorem FilterOperator.roundTrips : RoundTrips decoder toJson 1 :=
  .oneOf fun o => by cases o <;> rfl

theorem SortDirection.roundTrips : RoundTrips decoder toJson 1 :=
  .oneOf fun d => by cases d <;> rfl

/-- The values of the slots of an aggregation. -/
def Aggregation.fields (a : Aggregation) : Filled slots :=
  (a.function, a.aliasName, ())

theorem Aggregation.roundTrips : RoundTrips decoder toJson 2 := by
  refine .record fields (by decide) ?_ ?_ ?_ (fun a => rfl) ?_
  · have hstring := Decoder.string_faithful.mono (Nat.zero_le 1)
    simp [slots, Slot.required, Slot.withDefault, AggregationFunction.roundTrips.faithful,
      hstring.nullable]
  · intro a
    exact (names_optionalMember_sublist "alias" .string a.aliasName).cons_cons "type"
  · exact fun a => ⟨AggregationFunction.roundTrips.ofJson_write a.function,
      RoundTrips.string.takes_optional (fun _ => Json.noConfusion) rfl, trivial⟩
  · intro a m hm
    rcases List.mem_cons.mp hm with rfl | hm
    · exact AggregationFunction.roundTrips.proper a.function
    · exact RoundTrips.string.proper_optional a.aliasName m hm

/-- The values of the slots of a calculation. -/
def Calculation.fields (c : Calculation) : Filled slots :=
  (c.expression, c.aliasName, ())

theorem Calculation.roundTrips : RoundTrips decoder toJson 1 := by
  refine .record fields (by decide) ?_ (fun _ => .refl _) ?_ (fun c => rfl) ?_
  · simp [slots, Slot.withDefault, Decoder.string_faithful]
  · exact fun c => ⟨rfl, rfl, trivial⟩
  · simp [Proper.string]

/-- The values of the slots of a filter. -/
def Filter.fields (f : Filter) : Filled slots :=
  (f.operator, f.value, ())

theorem Filter.roundTrips : RoundTrips decoder toJson 2 := by
  refine .record fields (by decide) ?_ (fun _ => .refl _) ?_ (fun f => rfl) ?_
  · simp [slots, Slot.required, Slot.withDefault, FilterOperator.roundTrips.faithful,
      Decoder.string_faithful.mono (Nat.zero_le 1)]
  · exact fun f => ⟨FilterOperator.roundTrips.ofJson_write f.operator, rfl, trivial⟩
  · simp [Proper.string, FilterOperator.toJson]

/-- The values of the slots of a sort directive. -/
def SortBy.fields (s : SortBy) : Filled slots :=
  (s.direction, s.priority, ())

theorem SortBy.roundTrips : RoundTrips decoder toJson 2 := by
  refine .record fields (by decide) ?_ (fun _ => .refl _) ?_ (fun s => rfl) ?_
  · simp [slots, Slot.required, Slot.withDefault, SortDirection.roundTrips.faithful,
      Decoder.int32_faithful.mono (Nat.zero_le 1)]
  · exact fun s => ⟨SortDirection.roundTrips.ofJson_write s.direction,
      RoundTrips.int32.ofJson_write s.priority, trivial⟩
  · simp [Proper.string, Proper.int, SortDirection.toJson]

namespace FieldConfig

/-- The values of the slots of a configuration. -/
def fields (c : FieldConfig) : Filled slots :=
  (c.isIncluded, c.aliasName, c.aggregation, c.calculation, c.filter, c.groupBy, c.sortBy, ())

/-- The members of a written configuration. -/
def members (c : FieldConfig) : List (String × Json) :=
  ("isIncluded", .bool c.isIncluded)
    :: (optionalMember "alias" .string c.aliasName
      ++ (optionalMember "aggregation" Aggregation.toJson c.aggregation
      ++ (optionalMember "calculation" Calculation.toJson c.calculation
      ++ (optionalMember "filter" Filter.toJson c.filter
      ++ (("groupBy", .bool c.groupBy)
        :: optionalMember "sortBy" SortBy.toJson c.sortBy)))))

theorem names_members_sublist (c : FieldConfig) :
    (c.members.map Prod.fst).Sublist (slots.map Slot.name) := by
  have halias := names_optionalMember_sublist "alias" .string c.aliasName
  have haggregation := names_optionalMember_sublist "aggregation" Aggregation.toJson c.aggregation
  have hcalculation := names_optionalMember_sublist "calculation" Calculation.toJson c.calculation
  have hfilter := names_optionalMember_sublist "filter" Filter.toJson c.filter
  have hsortBy := names_optionalMember_sublist "sortBy" SortBy.toJson c.sortBy
  simp only [members, List.map_cons, List.map_append]
  exact (halias.append (haggregation.append (hcalculation.append (hfilter.append
    (hsortBy.cons_cons "groupBy"))))).cons_cons "isIncluded"

/-- A set directive has its member, wherever it stands. -/
theorem takes_members (c : FieldConfig) : Takes c.members slots c.fields := by
  have hgroupBy : c.members.lookup "groupBy" = some (.bool c.groupBy) := by
    simp [members, List.lookup_append, List.lookup_cons, lookup_optionalMember]
  refine ⟨rfl, RoundTrips.string.takes_optional (fun _ => Json.noConfusion) ?_,
    Aggregation.roundTrips.takes_optional (fun _ => Json.noConfusion) ?_,
    Calculation.roundTrips.takes_optional (fun _ => Json.noConfusion) ?_,
    Filter.roundTrips.takes_optional (fun _ => Json.noConfusion) ?_,
    Slot.takes_of_lookup hgroupBy rfl,
    SortBy.roundTrips.takes_optional (fun _ => Json.noConfusion) ?_, trivial⟩
  all_goals simp [members, fields, List.lookup_append, List.lookup_cons, lookup_optionalMember]

theorem roundTrips : RoundTrips decoder toJson 3 := by
  refine .record fields (by decide) ?_ names_members_sublist takes_members (fun c => rfl) ?_
  · have hbool := Decoder.bool_faithful.mono (Nat.zero_le 2)
    have hstring := Decoder.string_faithful.mono (Nat.zero_le 2)
    have hcalculation := Calculation.roundTrips.faithful.mono (Nat.le_succ 1)
    simp [slots, Slot.withDefault, hbool, hstring.nullable, hcalculation.nullable,
      Aggregation.roundTrips.faithful.nullable, Filter.roundTrips.faithful.nullable,
      SortBy.roundTrips.faithful.nullable]
  · intro c m hm
    simp only [List.mem_cons, List.mem_append] at hm
    rcases hm with rfl | hm | hm | hm | hm | rfl | hm
    · exact .bool c.isIncluded
    · exact RoundTrips.string.proper_optional c.aliasName m hm
    · exact Aggregation.roundTrips.proper_optional c.aggregation m hm
    · exact Calculation.roundTrips.proper_optional c.calculation m hm
    · exact Filter.roundTrips.proper_optional c.filter m hm
    · exact .bool c.groupBy
    · exact SortBy.roundTrips.proper_optional c.sortBy m hm

end FieldConfig

end QueryCanvas
