import QueryCanvas.Proofs.Query.Priority

/-!
# Empty specifications

A configuration is idle if it puts nothing into a specification: its field is excluded and nothing
is computed, filtered, grouped or sorted by it. What counts is what is filled in; half a calculation
and a filter without a value are as good as none. A compiled specification is empty exactly if all
its configurations are idle (`isEmpty_compile_iff`), whatever its reference tables are, so a field
that is configured for the first time never makes one empty (`isEmpty_compile_insert`).
-/

namespace QueryCanvas

namespace FieldConfig

/-- The field is excluded, and the configuration has no calculation with both parts filled in, no
filter with a value, no grouping and no sort directive. -/
structure Idle (config : FieldConfig) : Prop where
  excluded : config.isIncluded = false
  uncomputed : ∀ c, config.calculation = some c → c.expression = "" ∨ c.aliasName = ""
  unfiltered : ∀ f, config.filter = some f → f.value = ""
  ungrouped : config.groupBy = false
  unsorted : config.sortBy = none

/-- The configuration is of a kind that puts something into a specification. -/
inductive Contributes (config : FieldConfig) : Prop where
  | included : config.isIncluded = true → Contributes config
  | computed {c} :
      config.calculation = some c → c.expression ≠ "" → c.aliasName ≠ "" → Contributes config
  | filtered {f} : config.filter = some f → f.value ≠ "" → Contributes config
  | grouped : config.groupBy = true → Contributes config
  | sorted {s} : config.sortBy = some s → Contributes config

variable {config : FieldConfig}

/-- A configuration is idle exactly if it is of none of these kinds. -/
theorem idle_iff_not_contributes : config.Idle ↔ ¬ config.Contributes := by
  constructor
  · intro hidle hcontributes
    cases hcontributes with
    | included hincluded => exact Bool.false_ne_true (hidle.excluded.symm.trans hincluded)
    | computed hcalculation hexpression halias =>
        rcases hidle.uncomputed _ hcalculation with hblank | hblank
        · exact hexpression hblank
        · exact halias hblank
    | filtered hfilter hvalue => exact hvalue (hidle.unfiltered _ hfilter)
    | grouped hgrouped => exact Bool.false_ne_true (hidle.ungrouped.symm.trans hgrouped)
    | sorted hsorted => exact Option.some_ne_none _ (hsorted.symm.trans hidle.unsorted)
  · intro hnone
    refine ⟨?_, ?_, ?_, ?_, ?_⟩
    · exact Bool.eq_false_iff.mpr fun hincluded => hnone (.included hincluded)
    · intro c hcalculation
      by_contra hfilled
      obtain ⟨hexpression, halias⟩ := not_or.mp hfilled
      exact hnone (.computed hcalculation hexpression halias)
    · intro f hfilter
      by_contra hvalue
      exact hnone (.filtered hfilter hvalue)
    · exact Bool.eq_false_iff.mpr fun hgrouped => hnone (.grouped hgrouped)
    · exact Option.eq_none_iff_forall_ne_some.mpr fun _ hsorted => hnone (.sorted hsorted)

end FieldConfig

/-! ## What one configuration contributes -/

variable {key : FieldKey} {config : FieldConfig}

/-- Included fields are projected, and no others. -/
theorem includedFields_eq_nil_iff : includedFields key config = [] ↔ config.isIncluded = false := by
  unfold includedFields
  cases config.isIncluded <;> simp

/-- A calculation is contributed unless a part of it is blank. -/
theorem calculationEntry?_eq_none_iff :
    calculationEntry? key config = none ↔
      ∀ c, config.calculation = some c → c.expression = "" ∨ c.aliasName = "" := by
  unfold calculationEntry? completeCalculation?
  rw [Option.map_eq_none_iff, Option.filter_eq_none_iff]
  simp only [Calculation.isComplete, Bool.and_eq_true, bne_iff_ne, not_and_or, not_not]

/-- A filter is contributed unless its value is blank. -/
theorem filterEntry?_eq_none_iff :
    filterEntry? key config = none ↔ ∀ f, config.filter = some f → f.value = "" := by
  unfold filterEntry?
  rw [Option.map_eq_none_iff, Option.filter_eq_none_iff]
  simp

theorem grouping?_eq_none_iff : grouping? key config = none ↔ config.groupBy = false := by
  unfold grouping?
  cases config.groupBy <;> simp

theorem sortEntry?_eq_none_iff : sortEntry? key config = none ↔ config.sortBy = none :=
  Option.map_eq_none_iff

/-- Excluded fields are not aggregated. -/
theorem aggregationEntry?_of_excluded (hexcluded : config.isIncluded = false) :
    aggregationEntry? key config = none := by
  unfold aggregationEntry?
  rw [hexcluded]
  rfl

/-- Sorting loses no entry. -/
theorem sortByPriority_eq_nil_iff {entries : List SortEntry} :
    sortByPriority entries = [] ↔ entries = [] := by
  constructor
  · intro hnil
    have hperm := perm_sortByPriority entries
    rw [hnil] at hperm
    exact hperm.nil_eq.symm
  · rintro rfl
    rfl

/-! ## All configurations -/

variable {configs : FieldConfigs} {inferred : Option (List ReferenceEntry)}
  {tableNames : List String}

/-- A compiled specification is empty exactly if all configurations are idle. -/
theorem isEmpty_compile_iff :
    (compile configs inferred tableNames).isEmpty = true ↔
      ∀ entry ∈ configs.entries, entry.2.Idle := by
  simp only [Specification.isEmpty, compile, compileEntries, Bool.and_eq_true, List.isEmpty_iff,
    List.flatMap_eq_nil_iff, List.filterMap_eq_nil_iff, sortByPriority_eq_nil_iff]
  constructor
  · rintro ⟨⟨⟨⟨⟨hfields, hfilters⟩, hcalculations⟩, -⟩, hgroupings⟩, hsorts⟩ entry hentry
    exact {
      excluded := includedFields_eq_nil_iff.mp (hfields entry hentry)
      uncomputed := calculationEntry?_eq_none_iff.mp (hcalculations entry hentry)
      unfiltered := filterEntry?_eq_none_iff.mp (hfilters entry hentry)
      ungrouped := grouping?_eq_none_iff.mp (hgroupings entry hentry)
      unsorted := sortEntry?_eq_none_iff.mp (hsorts entry hentry) }
  · intro hidle
    refine ⟨⟨⟨⟨⟨?_, ?_⟩, ?_⟩, ?_⟩, ?_⟩, ?_⟩ <;> intro entry hentry
    · exact includedFields_eq_nil_iff.mpr (hidle entry hentry).excluded
    · exact filterEntry?_eq_none_iff.mpr (hidle entry hentry).unfiltered
    · exact calculationEntry?_eq_none_iff.mpr (hidle entry hentry).uncomputed
    · exact aggregationEntry?_of_excluded (hidle entry hentry).excluded
    · exact grouping?_eq_none_iff.mpr (hidle entry hentry).ungrouped
    · exact sortEntry?_eq_none_iff.mpr (hidle entry hentry).unsorted

/-- A compiled specification is not empty exactly if some key has a configuration that contributes
something. -/
theorem isEmpty_compile_eq_false_iff :
    (compile configs inferred tableNames).isEmpty = false ↔
      ∃ key config, configs.get? key = some config ∧ config.Contributes := by
  rw [Bool.eq_false_iff, Ne, isEmpty_compile_iff]
  simp only [FieldConfig.idle_iff_not_contributes, OrderedMap.get?_eq_some_iff]
  push Not
  exact Prod.exists

/-- A configuration under a new key does not take away what the others contribute. -/
theorem isEmpty_compile_insert (hnew : key ∉ configs.keys)
    (hfull : (compile configs inferred tableNames).isEmpty = false) (config : FieldConfig) :
    (compile (configs.insert key config) inferred tableNames).isEmpty = false := by
  obtain ⟨other, stored, hstored, hcontributes⟩ := isEmpty_compile_eq_false_iff.mp hfull
  have hne : other ≠ key := by
    rintro rfl
    exact hnew (List.mem_map_of_mem (OrderedMap.get?_eq_some_iff.mp hstored))
  refine isEmpty_compile_eq_false_iff.mpr ⟨other, stored, ?_, hcontributes⟩
  rw [OrderedMap.get?_insert, if_neg hne]
  exact hstored

end QueryCanvas
