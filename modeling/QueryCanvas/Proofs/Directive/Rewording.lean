import QueryCanvas.Proofs.Directive.RoundTrip
import QueryCanvas.Proofs.Json.Leeway

/-!
# Reworded configurations

What a written configuration allows without saying anything else: each directive and the
configuration itself have a `Leeway`. However often it is used, in the configuration and in the
directives in it, the configuration that was written is read (`FieldConfig.read_reworded`).
-/

namespace QueryCanvas

open Json Relation

/-! ## Directives -/

/-- The alias of an aggregation may be null if it is unset. -/
def Aggregation.leeway : Leeway where
  names := ["type", "alias"]
  silent := [("alias", .null)]
  parts := []

/-- Both parts of a calculation may be left out if they are empty. -/
def Calculation.leeway : Leeway where
  names := ["expression", "alias"]
  silent := [("expression", .string ""), ("alias", .string "")]
  parts := []

/-- The value of a filter may be left out if it is empty. -/
def Filter.leeway : Leeway where
  names := ["operator", "value"]
  silent := [("value", .string "")]
  parts := []

/-- The priority of a sort directive may be left out if it is zero. -/
def SortBy.leeway : Leeway where
  names := ["direction", "priority"]
  silent := [("priority", .int 0)]
  parts := []

theorem Aggregation.fits : leeway.Fits slots where
  names := rfl
  nodup := by decide
  silent := by simp [leeway, slots, Slot.required, Slot.withDefault, Decoder.nullable]
  parts := by simp [leeway]

theorem Calculation.fits : leeway.Fits slots where
  names := rfl
  nodup := by decide
  silent := by simp [leeway, slots, Slot.withDefault, Decoder.string]
  parts := by simp [leeway]

theorem Filter.fits : leeway.Fits slots where
  names := rfl
  nodup := by decide
  silent := by simp [leeway, slots, Slot.required, Slot.withDefault, Decoder.string]
  parts := by simp [leeway]

theorem SortBy.fits : leeway.Fits slots where
  names := rfl
  nodup := by decide
  silent := by
    have hzero : Decoder.int32.ofJson (.int 0) = .ok 0 := RoundTrips.int32.ofJson_write 0
    simp [leeway, slots, Slot.required, Slot.withDefault, hzero]
  parts := by simp [leeway]

theorem Aggregation.decoder_ignores : decoder.Ignores leeway.Step :=
  (Decoder.record_ignores _ fits).map _

theorem Calculation.decoder_ignores : decoder.Ignores leeway.Step :=
  (Decoder.record_ignores _ fits).map _

theorem Filter.decoder_ignores : decoder.Ignores leeway.Step :=
  (Decoder.record_ignores _ fits).map _

theorem SortBy.decoder_ignores : decoder.Ignores leeway.Step :=
  (Decoder.record_ignores _ fits).map _

/-! ## Configurations -/

namespace FieldConfig

/-- A configuration that is included or ungrouped need not say so, an unset directive may be null,
and a set one may be worded as it allows. -/
def leeway : Leeway where
  names := ["isIncluded", "alias", "aggregation", "calculation", "filter", "groupBy", "sortBy"]
  silent :=
    [("isIncluded", .bool true), ("groupBy", .bool false), ("alias", .null),
     ("aggregation", .null), ("calculation", .null), ("filter", .null), ("sortBy", .null)]
  parts :=
    [("aggregation", Aggregation.leeway.Step), ("calculation", Calculation.leeway.Step),
     ("filter", Filter.leeway.Step), ("sortBy", SortBy.leeway.Step)]

theorem fits : leeway.Fits slots where
  names := rfl
  nodup := by decide
  silent := by
    simp [leeway, slots, Slot.withDefault, Decoder.nullable, Decoder.bool, default]
  parts := by
    have hnull (l : Leeway) (i j : Json) (h : l.Step i j) : i ≠ .null ∧ j ≠ .null := h.ne_null
    simp [leeway, slots, Slot.withDefault, Aggregation.decoder_ignores.nullable (hnull _),
      Calculation.decoder_ignores.nullable (hnull _), Filter.decoder_ignores.nullable (hnull _),
      SortBy.decoder_ignores.nullable (hnull _)]

theorem decoder_ignores : decoder.Ignores leeway.Step :=
  (Decoder.record_ignores _ fits).map _

/-- However a written configuration is reworded, it is read: as a value, from every text that writes
the reworded value, and so from its compact and its indented form. -/
theorem read_reworded (c : FieldConfig) {j : Json} (h : ReflTransGen leeway.Step c.toJson j) :
    decoder.ofJson j = .ok c ∧
      (∀ text : String, Spells j text.toList → decoder.read text = .ok c) ∧
      (Proper j → decoder.read j.compact = .ok c ∧ decoder.read j.pretty = .ok c) := by
  have hvalue : decoder.ofJson j = .ok c :=
    decoder_ignores.many c.toJson j c h (roundTrips.ofJson_write c)
  have hfaithful := roundTrips.faithful depthLimit (by decide) j
  exact ⟨hvalue, fun text htext => hfaithful.read_spelled htext hvalue,
    fun hproper => hfaithful.read_forms hproper hvalue⟩

/-- A field that is counted under an empty alias and sorts first. -/
def counted : FieldConfig where
  aliasName := some ""
  aggregation := some ⟨.count, none⟩
  sortBy := some ⟨.ascending, 0⟩

/-- The configuration without what goes without saying, with nulls for what is unset, and with a
member that no one knows. -/
def countedReworded : Json :=
  .object
    [("filter", .null), ("note", .array [.float 0x7E37E43C8800759C, .object [("alias", .null)]]),
     ("sortBy", .object [("direction", .string "ASC")]),
     ("aggregation", .object [("alias", .null), ("type", .string "COUNT")]),
     ("alias", .string "")]

theorem counted_reworded : ReflTransGen leeway.Step counted.toJson countedReworded := by
  have hsortBy : SortBy.leeway.Step
      (.object [("priority", .int 0), ("direction", .string "ASC")])
      (.object [("direction", .string "ASC")]) := .leaveOut (by simp [SortBy.leeway])
  have hsortByOrder : SortBy.leeway.Step
      (.object [("direction", .string "ASC"), ("priority", .int 0)])
      (.object [("priority", .int 0), ("direction", .string "ASC")]) := .reorder (by decide)
  have haggregation : Aggregation.leeway.Step (.object [("type", .string "COUNT")])
      (.object [("alias", .null), ("type", .string "COUNT")]) :=
    .fillIn (by simp [Aggregation.leeway]) (by decide)
  refine .head (b := .object
    [("isIncluded", .bool true), ("groupBy", .bool false),
     ("sortBy", .object [("direction", .string "ASC"), ("priority", .int 0)]),
     ("aggregation", .object [("type", .string "COUNT")]), ("alias", .string "")])
    (.reorder (by decide)) ?_
  refine .head (.leaveOut (by simp [leeway])) (.head (.leaveOut (by simp [leeway])) ?_)
  refine .head (.within (by simp [leeway]) hsortByOrder) ?_
  refine .head (.within (by simp [leeway]) hsortBy) ?_
  refine .head (b := .object
    [("aggregation", .object [("type", .string "COUNT")]),
     ("sortBy", .object [("direction", .string "ASC")]), ("alias", .string "")])
    (.reorder (by decide)) ?_
  refine .head (.within (by simp [leeway]) haggregation) (.head (.reorder (.swap _ _ _)) ?_)
  refine .head (.add (m := ("note", .array [.float 0x7E37E43C8800759C, .object [("alias", .null)]]))
    (by decide)) ?_
  exact .single (.fillIn (by simp [leeway]) (by decide))

/-- The reworded text is read as the configuration that says it all. -/
theorem read_reworded_counted :
    ReflTransGen leeway.Step counted.toJson countedReworded ∧
      decoder.ofJson countedReworded = .ok counted ∧
      decoder.read countedReworded.compact = .ok counted := by
  have hfloat : Proper (.float 0x7E37E43C8800759C) := .float (by decide)
  have hunset : Proper (.object [("alias", .null)]) := .object (by simp [Proper.null])
  have hnote : Proper (.array [.float 0x7E37E43C8800759C, .object [("alias", .null)]]) :=
    .array (by simp [hfloat, hunset])
  have hsortBy : Proper (.object [("direction", .string "ASC")]) :=
    .object (by simp [Proper.string])
  have haggregation : Proper (.object [("alias", .null), ("type", .string "COUNT")]) :=
    .object (by simp [Proper.null, Proper.string])
  have hproper : Proper countedReworded :=
    .object (by simp [Proper.null, Proper.string, hnote, hsortBy, haggregation])
  obtain ⟨hvalue, -, hwritten⟩ := read_reworded counted counted_reworded
  exact ⟨counted_reworded, hvalue, (hwritten hproper).1⟩

end FieldConfig

end QueryCanvas
