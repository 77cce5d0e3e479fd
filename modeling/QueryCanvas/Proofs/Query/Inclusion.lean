import Mathlib.Data.List.Forall2
import QueryCanvas.Query.Compile

/-!
# What the inclusion flag decides

The inclusion flag decides whether a field is projected, and nothing else. Maps that differ in their
flags only (`FieldConfigs.SameButInclusion`) compile to the same filters, calculations, groupings
and sort entries. Excluded configurations can be taken out or drafted anew (`ExcludedVary`) without
a trace in the projections and aggregations, since these are read off the included configurations
alone (`ExcludedVary.included_eq`). `compile_inclusion` states both.
-/

namespace QueryCanvas

/-- The second configuration is the first one, with the same or the other inclusion flag. -/
def FieldConfig.SameButInclusion (first second : FieldConfig) : Prop :=
  ∃ flag, second = { first with isIncluded := flag }

/-- The two maps have the same keys in the same order, and their configurations differ in the
inclusion flags only. -/
def FieldConfigs.SameButInclusion (first second : FieldConfigs) : Prop :=
  List.Forall₂ (fun a b => a.1 = b.1 ∧ a.2.SameButInclusion b.2) first.entries second.entries

/-- The second list is the first one after some of its excluded configurations were taken out and
others were replaced by excluded drafts. -/
inductive ExcludedVary :
    List (FieldKey × FieldConfig) → List (FieldKey × FieldConfig) → Prop where
  | nil : ExcludedVary [] []
  | kept {before after} (entry) :
      ExcludedVary before after → ExcludedVary (entry :: before) (entry :: after)
  | removed {before after key config} :
      config.isIncluded = false → ExcludedVary before after →
      ExcludedVary ((key, config) :: before) after
  | redrafted {before after key config draft} :
      config.isIncluded = false → draft.isIncluded = false → ExcludedVary before after →
      ExcludedVary ((key, config) :: before) ((key, draft) :: after)

namespace Specification

/-- The specifications agree in the sections that the inclusion flag must not touch. -/
structure SameSelection (first second : Specification) : Prop where
  filters : first.filters = second.filters
  calculations : first.calculations = second.calculations
  groupBy : first.groupBy = second.groupBy
  sortBy : first.sortBy = second.sortBy
  referenceTables : first.referenceTables = second.referenceTables

/-- The specifications project and aggregate the same. -/
structure SameProjection (first second : Specification) : Prop where
  includeFields : first.includeFields = second.includeFields
  aggregations : first.aggregations = second.aggregations

end Specification

/-! ## Sections that do not read the flag -/

/-- Lists whose members correspond contribute the same, if corresponding members do. -/
theorem filterMap_eq_of_forall₂ {α β : Type} {R : α → α → Prop} {f : α → Option β}
    {first second : List α} (hall : List.Forall₂ R first second)
    (hsame : ∀ {a b}, R a b → f a = f b) : first.filterMap f = second.filterMap f := by
  induction hall with
  | nil => rfl
  | cons hhead _ ih => rw [List.filterMap_cons, List.filterMap_cons, hsame hhead, ih]

/-- A contribution that is the same for both flags is collected alike from maps that differ in their
flags only. -/
theorem FieldConfigs.SameButInclusion.filterMap_eq {β : Type} {first second : FieldConfigs}
    (hsame : first.SameButInclusion second) (contribute : FieldKey → FieldConfig → Option β)
    (hblind : ∀ key config flag,
      contribute key { config with isIncluded := flag } = contribute key config) :
    first.entries.filterMap (fun entry => contribute entry.1 entry.2) =
      second.entries.filterMap fun entry => contribute entry.1 entry.2 := by
  refine filterMap_eq_of_forall₂ hsame ?_
  rintro ⟨key, config⟩ ⟨_, _⟩ ⟨rfl, flag, rfl⟩
  exact (hblind key config flag).symm

/-- Maps that differ in their flags only compile to the same sections outside the projection. -/
theorem FieldConfigs.SameButInclusion.sameSelection {first second : FieldConfigs}
    (hsame : first.SameButInclusion second) (inferred : Option (List ReferenceEntry))
    (tableNames : List String) :
    (compile first inferred tableNames).SameSelection (compile second inferred tableNames) where
  filters := hsame.filterMap_eq filterEntry? fun _ _ _ => rfl
  calculations := hsame.filterMap_eq calculationEntry? fun _ _ _ => rfl
  groupBy := hsame.filterMap_eq grouping? fun _ _ _ => rfl
  sortBy := congrArg sortByPriority (hsame.filterMap_eq sortEntry? fun _ _ _ => rfl)
  referenceTables := rfl

/-! ## Sections that read included configurations only -/

/-- The included entries. -/
def includedEntries (entries : List (FieldKey × FieldConfig)) : List (FieldKey × FieldConfig) :=
  entries.filter fun entry => entry.2.isIncluded

theorem includedEntries_cons_included {entry : FieldKey × FieldConfig}
    (hin : entry.2.isIncluded = true) (entries : List (FieldKey × FieldConfig)) :
    includedEntries (entry :: entries) = entry :: includedEntries entries := by
  simp [includedEntries, hin]

theorem includedEntries_cons_excluded {entry : FieldKey × FieldConfig}
    (hout : entry.2.isIncluded = false) (entries : List (FieldKey × FieldConfig)) :
    includedEntries (entry :: entries) = includedEntries entries := by
  simp [includedEntries, hout]

/-- Whatever becomes of the excluded configurations, the included ones are the same. -/
theorem ExcludedVary.included_eq {before after : List (FieldKey × FieldConfig)}
    (hvary : ExcludedVary before after) : includedEntries before = includedEntries after := by
  induction hvary with
  | nil => rfl
  -- A kept entry may be either; it stands in both lists or in none.
  | kept entry _ ih =>
      cases hflag : entry.2.isIncluded with
      | true => rw [includedEntries_cons_included hflag, includedEntries_cons_included hflag, ih]
      | false => rw [includedEntries_cons_excluded hflag, includedEntries_cons_excluded hflag, ih]
  | removed hout _ ih => rw [includedEntries_cons_excluded hout, ih]
  | redrafted hout hdraft _ ih =>
      rw [includedEntries_cons_excluded hout, includedEntries_cons_excluded hdraft, ih]

/-- The projections are those of the included entries. -/
theorem flatMap_includedFields (entries : List (FieldKey × FieldConfig)) :
    entries.flatMap (fun entry => includedFields entry.1 entry.2) =
      (includedEntries entries).flatMap fun entry => includedFields entry.1 entry.2 := by
  induction entries with
  | nil => rfl
  | cons entry entries ih =>
      cases hflag : entry.2.isIncluded with
      | true => rw [includedEntries_cons_included hflag, List.flatMap_cons, List.flatMap_cons, ih]
      | false =>
          have hnone : includedFields entry.1 entry.2 = [] := by simp [includedFields, hflag]
          rw [includedEntries_cons_excluded hflag, List.flatMap_cons, hnone, ih]
          rfl

/-- The aggregations are those of the included entries. -/
theorem filterMap_aggregations (entries : List (FieldKey × FieldConfig)) :
    entries.filterMap (fun entry => aggregationEntry? entry.1 entry.2) =
      (includedEntries entries).filterMap fun entry => aggregationEntry? entry.1 entry.2 := by
  rw [includedEntries, List.filterMap_filter]
  congr 1
  funext entry
  cases hflag : entry.2.isIncluded <;> simp [hflag, aggregationEntry?]

/-- Excluded configurations leave no trace in the projection. -/
theorem ExcludedVary.sameProjection {before after : FieldConfigs}
    (hvary : ExcludedVary before.entries after.entries)
    (inferred : Option (List ReferenceEntry)) (tableNames : List String) :
    (compile before inferred tableNames).SameProjection
      (compile after inferred tableNames) where
  includeFields := by
    calc before.entries.flatMap (fun entry => includedFields entry.1 entry.2)
        = (includedEntries before.entries).flatMap fun entry => includedFields entry.1 entry.2 :=
          flatMap_includedFields _
      _ = after.entries.flatMap fun entry => includedFields entry.1 entry.2 := by
          rw [hvary.included_eq, ← flatMap_includedFields]
  aggregations := by
    calc before.entries.filterMap (fun entry => aggregationEntry? entry.1 entry.2)
        = (includedEntries before.entries).filterMap fun entry =>
            aggregationEntry? entry.1 entry.2 := filterMap_aggregations _
      _ = after.entries.filterMap fun entry => aggregationEntry? entry.1 entry.2 := by
          rw [hvary.included_eq, ← filterMap_aggregations]

/-- The inclusion flag decides about the projection and nothing else. Flipping flags leaves the
filters, calculations, groupings, sort entries and reference tables as they are. Conversely,
projections and aggregations stay as they are when excluded configurations are taken out or drafted
anew, as long as they stay excluded. -/
theorem compile_inclusion (inferred : Option (List ReferenceEntry)) (tableNames : List String) :
    let spec (configs : FieldConfigs) := compile configs inferred tableNames
    (∀ first second : FieldConfigs, first.SameButInclusion second →
      (spec first).SameSelection (spec second)) ∧
    ∀ before after : FieldConfigs, ExcludedVary before.entries after.entries →
      (spec before).SameProjection (spec after) := by
  intro spec
  constructor
  · intro first second hsame
    exact hsame.sameSelection inferred tableNames
  · intro before after hvary
    exact hvary.sameProjection inferred tableNames

/-- A field that is aggregated, computed with and sorted by. -/
def revenueEntry (included : Bool) : FieldKey × FieldConfig :=
  (⟨"sales", "revenue"⟩,
    { isIncluded := included
      aggregation := some ⟨.sum, none⟩
      calculation := some ⟨"revenue / 2", "half"⟩
      sortBy := some ⟨.descending, 1⟩ })

/-- A field that is renamed, filtered and grouped by. -/
def regionEntry (included : Bool) : FieldKey × FieldConfig :=
  (⟨"sales", "region"⟩,
    { isIncluded := included
      aliasName := some "area"
      filter := some ⟨.equal, "EU"⟩
      groupBy := true })

/-- An excluded field that is aggregated. -/
def dayEntry : FieldKey × FieldConfig :=
  (⟨"sales", "day"⟩, { isIncluded := false, aggregation := some ⟨.max, some "last"⟩ })

/-- Two flags are flipped; then an excluded field is drafted anew and another one taken out. -/
theorem compile_inclusion_sales :
    let whole := OrderedMap.ofList [revenueEntry true, regionEntry false, dayEntry]
    let flipped := OrderedMap.ofList [revenueEntry false, regionEntry true, dayEntry]
    let draft : FieldConfig := { isIncluded := false, aggregation := some ⟨.count, none⟩ }
    let varied := OrderedMap.ofList [revenueEntry true, ((regionEntry false).1, draft)]
    FieldConfigs.SameButInclusion whole flipped ∧
      (compile whole none ["sales"]).SameSelection (compile flipped none ["sales"]) ∧
      ExcludedVary whole.entries varied.entries ∧
      (compile whole none ["sales"]).SameProjection (compile varied none ["sales"]) := by
  intro whole flipped draft varied
  have hflipped : FieldConfigs.SameButInclusion whole flipped :=
    .cons ⟨rfl, false, rfl⟩ (.cons ⟨rfl, true, rfl⟩ (.cons ⟨rfl, false, rfl⟩ .nil))
  have hvaried : ExcludedVary whole.entries varied.entries :=
    .kept (revenueEntry true) (.redrafted rfl rfl (.removed rfl .nil))
  obtain ⟨hselection, hprojection⟩ := compile_inclusion none ["sales"]
  exact ⟨hflipped, hselection whole flipped hflipped, hvaried, hprojection whole varied hvaried⟩

end QueryCanvas
