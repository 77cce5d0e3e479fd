import QueryCanvas.Proofs.Directive.RoundTrip
import QueryCanvas.Query.Compile
import QueryCanvas.Query.Document

/-!
# Written specifications are read back

Every specification without joins is read back from its canonical text and from its compact text
(`Specification.read_written`), whatever characters its texts hold, so that each of the two texts
determines it. The entries of a specification are read back one type after another; only the joins,
which may hold any values, are not covered.
-/

namespace QueryCanvas

open Json

theorem JoinType.roundTrips : RoundTrips decoder toJson 1 :=
  .oneOf fun t => by cases t; rfl

/-- The values of the slots of a join. -/
def JoinDescriptor.fields (j : JoinDescriptor) : Filled slots :=
  (j.table, j.leftColumn, j.rightColumn, ())

theorem JoinDescriptor.roundTrips : RoundTrips decoder toJson 1 :=
  .record fields (by decide)
    (by simp [slots, Slot.required, Decoder.string_faithful])
    (fun _ => .refl _)
    (fun j => ⟨rfl, rfl, rfl, trivial⟩)
    (fun j => rfl)
    (by simp [Proper.string])

/-- The values of the slots of a reference table. -/
def ReferenceEntry.fields (e : ReferenceEntry) : Filled slots :=
  (e.name, e.joinType, e.join, ())

theorem ReferenceEntry.roundTrips : RoundTrips decoder toJson 2 := by
  refine .record fields (by decide) ?_ ?_ ?_ (fun e => rfl) ?_
  · simp [slots, Slot.required, Slot.withDefault, Decoder.string_faithful.mono (Nat.zero_le 1),
      JoinType.roundTrips.faithful, JoinDescriptor.roundTrips.faithful.nullable]
  · intro e
    have hjoin := names_optionalMember_sublist "join" JoinDescriptor.toJson e.join
    exact (hjoin.cons_cons "joinType").cons_cons "name"
  · exact fun e => ⟨rfl, JoinType.roundTrips.ofJson_write e.joinType,
      JoinDescriptor.roundTrips.takes_optional (fun _ => Json.noConfusion) rfl, trivial⟩
  · intro e m hm
    rw [List.mem_cons, List.mem_cons] at hm
    rcases hm with rfl | rfl | hm
    · exact .string e.name
    · exact JoinType.roundTrips.proper e.joinType
    · exact JoinDescriptor.roundTrips.proper_optional e.join m hm

/-- The values of the slots of a filter entry. -/
def FilterEntry.fields (e : FilterEntry) : Filled slots :=
  (e.field, e.operator, e.value, ())

theorem FilterEntry.roundTrips : RoundTrips decoder toJson 2 := by
  refine .record fields (by decide) ?_ (fun _ => .refl _) ?_ (fun e => rfl) ?_
  · simp [slots, Slot.required, Decoder.string_faithful.mono (Nat.zero_le 1),
      FilterOperator.roundTrips.faithful]
  · exact fun e => ⟨rfl, FilterOperator.roundTrips.ofJson_write e.operator, rfl, trivial⟩
  · simp [Proper.string, FilterOperator.toJson]

/-- The values of the slots of a calculation entry. -/
def CalculationEntry.fields (e : CalculationEntry) : Filled slots :=
  (e.expression, e.aliasName, ())

theorem CalculationEntry.roundTrips : RoundTrips decoder toJson 1 := by
  refine .record fields (by decide) ?_ (fun _ => .refl _) ?_ (fun e => rfl) ?_
  · simp [slots, Slot.required, Decoder.string_faithful]
  · exact fun e => ⟨rfl, rfl, trivial⟩
  · simp [Proper.string]

/-- The values of the slots of an aggregation entry. -/
def AggregationEntry.fields (e : AggregationEntry) : Filled slots :=
  (e.field, e.function, e.aliasName, ())

theorem AggregationEntry.roundTrips : RoundTrips decoder toJson 2 := by
  refine .record fields (by decide) ?_ ?_ ?_ (fun e => rfl) ?_
  · have hstring := Decoder.string_faithful.mono (Nat.zero_le 1)
    simp [slots, Slot.required, Slot.withDefault, hstring,
      AggregationFunction.roundTrips.faithful, hstring.nullable]
  · intro e
    have halias := names_optionalMember_sublist "alias" .string e.aliasName
    exact (halias.cons_cons "function").cons_cons "field"
  · exact fun e => ⟨rfl, AggregationFunction.roundTrips.ofJson_write e.function,
      RoundTrips.string.takes_optional (fun _ => Json.noConfusion) rfl, trivial⟩
  · intro e m hm
    rw [List.mem_cons, List.mem_cons] at hm
    rcases hm with rfl | rfl | hm
    · exact .string e.field
    · exact AggregationFunction.roundTrips.proper e.function
    · exact RoundTrips.string.proper_optional e.aliasName m hm

/-- The values of the slots of a sort entry. -/
def SortEntry.fields (e : SortEntry) : Filled slots :=
  (e.field, e.direction, e.priority, ())

theorem SortEntry.roundTrips : RoundTrips decoder toJson 2 := by
  refine .record fields (by decide) ?_ (fun _ => .refl _) ?_ (fun e => rfl) ?_
  · simp [slots, Slot.required, Decoder.string_faithful.mono (Nat.zero_le 1),
      SortDirection.roundTrips.faithful, Decoder.int32_faithful.mono (Nat.zero_le 1)]
  · exact fun e => ⟨rfl, SortDirection.roundTrips.ofJson_write e.direction,
      RoundTrips.int32.ofJson_write e.priority, trivial⟩
  · simp [Proper.string, Proper.int, SortDirection.toJson]

namespace Specification

/-- The values of the slots of a specification. -/
def fields (s : Specification) : Filled slots :=
  (s.includeFields, s.referenceTables, s.joins, s.filters, s.calculations, s.aggregations,
    s.groupBy, s.sortBy, ())

/-- Values of any kind are read as they are. -/
theorem list_any_ofJson (items : List Json) :
    (Decoder.list .any).ofJson (.array items) = .ok items := by
  show items.mapM Decoder.any.ofJson = .ok items
  induction items with
  | nil => rfl
  | cons j items ih => rw [List.mapM_cons, ih]; rfl

/-- A written specification is read back as a value. -/
theorem ofJson_toJson (s : Specification) : decoder.ofJson s.toJson = .ok s := by
  refine map_eq_ok_iff.mpr
    ⟨s.fields, (record_ofJson_object_iff _ (by decide)).mpr ⟨?_, ?_⟩, rfl⟩
  · simp [slots, Slot.required]
  · exact ⟨RoundTrips.string.list.ofJson_write s.includeFields,
      ReferenceEntry.roundTrips.list.ofJson_write s.referenceTables,
      list_any_ofJson s.joins,
      FilterEntry.roundTrips.list.ofJson_write s.filters,
      CalculationEntry.roundTrips.list.ofJson_write s.calculations,
      AggregationEntry.roundTrips.list.ofJson_write s.aggregations,
      RoundTrips.string.list.ofJson_write s.groupBy,
      SortEntry.roundTrips.list.ofJson_write s.sortBy, trivial⟩

/-- Without joins, a written specification is read from texts as from values. -/
theorem faithfulWithin_toJson {s : Specification} (hjoins : s.joins = []) {depth : Nat}
    (hdepth : 4 ≤ depth) : decoder.FaithfulWithin depth s.toJson := by
  obtain ⟨depth, rfl⟩ := Nat.exists_eq_add_of_le' hdepth
  have hstrings := RoundTrips.string.list.faithful (depth + 3) (by omega)
  refine (Decoder.record_faithfulWithin_object _ ?_).map _
  intro slot hslot j hj
  simp only [slots, List.mem_cons, List.not_mem_nil, or_false] at hslot
  rcases hslot with rfl | rfl | rfl | rfl | rfl | rfl | rfl | rfl
  · exact hstrings j
  · exact ReferenceEntry.roundTrips.list.faithful (depth + 3) (by omega) j
  · -- The members of a join that is an object would come out sorted; but there are no joins.
    have hempty : j = .array [] := by simpa [Slot.required, hjoins] using hj
    rw [hempty]
    exact Decoder.list_faithfulWithin (by simp)
  · exact FilterEntry.roundTrips.list.faithful (depth + 3) (by omega) j
  · exact CalculationEntry.roundTrips.list.faithful (depth + 3) (by omega) j
  · exact AggregationEntry.roundTrips.list.faithful (depth + 3) (by omega) j
  · exact hstrings j
  · exact SortEntry.roundTrips.list.faithful (depth + 3) (by omega) j

/-- Without joins, there are no numbers but finite ones in a written specification. -/
theorem proper_toJson {s : Specification} (hjoins : s.joins = []) : Proper s.toJson := by
  refine .object fun m hm => ?_
  simp only [List.mem_cons, List.not_mem_nil, or_false] at hm
  rcases hm with rfl | rfl | rfl | rfl | rfl | rfl | rfl | rfl
  · exact RoundTrips.string.list.proper s.includeFields
  · exact ReferenceEntry.roundTrips.list.proper s.referenceTables
  · rw [hjoins]
    exact .array (by simp)
  · exact FilterEntry.roundTrips.list.proper s.filters
  · exact CalculationEntry.roundTrips.list.proper s.calculations
  · exact AggregationEntry.roundTrips.list.proper s.aggregations
  · exact RoundTrips.string.list.proper s.groupBy
  · exact SortEntry.roundTrips.list.proper s.sortBy

/-! ## In the envelope -/

theorem ofJson_envelope (s : Specification) : envelopeDecoder.ofJson s.envelope = .ok s := by
  refine map_eq_ok_iff.mpr
    ⟨(s, ()), (record_ofJson_object_iff _ (by decide)).mpr ⟨?_, ?_⟩, rfl⟩
  · simp [envelopeSlots, Slot.required]
  · exact ⟨ofJson_toJson s, trivial⟩

theorem faithfulWithin_envelope {s : Specification} (hjoins : s.joins = []) :
    envelopeDecoder.FaithfulWithin depthLimit s.envelope := by
  refine (Decoder.record_faithfulWithin_object _ ?_).map _
  intro slot hslot j hj
  rw [List.mem_singleton.mp hslot] at hj ⊢
  rw [(Prod.mk.inj (List.mem_singleton.mp hj)).2]
  exact faithfulWithin_toJson hjoins (by decide)

theorem proper_envelope {s : Specification} (hjoins : s.joins = []) : Proper s.envelope := by
  refine .object fun m hm => ?_
  rw [List.mem_singleton.mp hm]
  exact proper_toJson hjoins

/-- The canonical text is read back. -/
theorem read_canonicalText {s : Specification} (hjoins : s.joins = []) :
    envelopeDecoder.read s.canonicalText = .ok s :=
  ((faithfulWithin_envelope hjoins).read_forms (proper_envelope hjoins) (ofJson_envelope s)).2

/-- The compact text is read back. -/
theorem read_compactText {s : Specification} (hjoins : s.joins = []) :
    decoder.read s.compactText = .ok s :=
  ((faithfulWithin_toJson hjoins (by decide)).read_forms (proper_toJson hjoins)
    (ofJson_toJson s)).1

/-- Either written text determines the specification, which has no joins if it was compiled: the
text is read back, what is read is written as both texts again, and no other specification has
either text. The compact text is the one under the fingerprint. -/
theorem read_written :
    (∀ configs inferred tableNames, (compile configs inferred tableNames).joins = []) ∧
    ∀ s : Specification, s.joins = [] →
      s.fingerprint = Sha256.hex s.compactText ∧
      envelopeDecoder.read s.canonicalText = .ok s ∧
      decoder.read s.compactText = .ok s ∧
      (∀ again, envelopeDecoder.read s.canonicalText = .ok again ∨
          decoder.read s.compactText = .ok again →
        again.canonicalText = s.canonicalText ∧ again.compactText = s.compactText) ∧
      ∀ other : Specification, other.joins = [] → other ≠ s →
        other.canonicalText ≠ s.canonicalText ∧ other.compactText ≠ s.compactText := by
  refine ⟨fun _ _ _ => rfl, fun s hs => ?_⟩
  have hcanonical := read_canonicalText hs
  have hcompact := read_compactText hs
  refine ⟨rfl, hcanonical, hcompact, ?_, ?_⟩
  · intro again hagain
    have heq : again = s := by
      rcases hagain with hread | hread
      · rw [hcanonical] at hread
        exact (Except.ok.inj hread).symm
      · rw [hcompact] at hread
        exact (Except.ok.inj hread).symm
    rw [heq]
    exact ⟨rfl, rfl⟩
  · -- Two specifications with the same text are both what that text is read as.
    intro other hother hne
    constructor
    · intro htext
      have hread := read_canonicalText hother
      rw [htext, hcanonical] at hread
      exact hne (Except.ok.inj hread).symm
    · intro htext
      have hread := read_compactText hother
      rw [htext, hcompact] at hread
      exact hne (Except.ok.inj hread).symm

/-- Texts that need escapes, a priority below zero, and an alias that may be unset. -/
def escaped (aliasName : Option String) : Specification where
  includeFields := ["t.\"\\\n\x00😀"]
  referenceTables := [.joined "t" ⟨"u", "a,\x7d", "b: ["⟩, .bare "u"]
  joins := []
  filters := [⟨"t.a", .notIn, "( \"x\" )"⟩]
  calculations := [⟨"1 + 1", ""⟩]
  aggregations := [⟨"t.a", .distinct, aliasName⟩]
  groupBy := []
  sortBy := [⟨"t.a", .descending, Int32.minValue⟩]

/-- An unset alias and an empty one are told apart. -/
theorem read_written_escaped :
    (escaped none).joins = [] ∧ escaped (some "") ≠ escaped none ∧
      envelopeDecoder.read (escaped none).canonicalText = .ok (escaped none) ∧
      decoder.read (escaped (some "")).compactText = .ok (escaped (some "")) ∧
      (escaped (some "")).canonicalText ≠ (escaped none).canonicalText := by
  have hunset := read_written.2 (escaped none) rfl
  have hempty := read_written.2 (escaped (some "")) rfl
  have hne : escaped (some "") ≠ escaped none := by decide
  exact ⟨rfl, hne, hunset.2.1, hempty.2.2.1, (hunset.2.2.2.2 (escaped (some "")) rfl hne).1⟩

end Specification

end QueryCanvas
