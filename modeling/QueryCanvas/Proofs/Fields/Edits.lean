import QueryCanvas.Fields.Panel

/-!
# What edits leave in a draft

A configuration is told by its settings (`FieldConfig.settings_inj`), one for each kind of edit but
a new draft (`FieldConfig.countP_isLike`). An edit puts itself in the place of the setting of its
kind and leaves the others (`FieldConfig.settings_edit`), so that of many edits the last of each
kind counts (`FieldConfig.settings_edits`).
-/

namespace QueryCanvas

/-- The edit gives a new draft. -/
def Edit.isDraft : Edit → Bool
  | .draft _ => true
  | _ => false

/-- The edits set the same directive. -/
def Edit.isLike (e other : Edit) : Bool :=
  e.ctorIdx == other.ctorIdx

namespace FieldConfig

/-- The settings of a configuration, as the edits that make them. -/
def settings (c : FieldConfig) : List Edit :=
  [.included c.isIncluded, .aliasName c.aliasName, .aggregation c.aggregation,
    .calculation c.calculation, .filter c.filter, .groupBy c.groupBy, .sortBy c.sortBy]

variable {c other : FieldConfig}

/-- A configuration is told by its settings. -/
theorem settings_inj : c.settings = other.settings ↔ c = other := by
  cases c
  cases other
  simp [settings]

/-- A new draft replaces all settings. Another edit puts itself in the place of the setting of its
kind and leaves the others. -/
theorem settings_edit (c : FieldConfig) (e : Edit) :
    (c.edit e).settings =
      match e with
      | .draft other => other.settings
      | e => c.settings.map fun setting => if setting.isLike e then e else setting := by
  cases e <;> rfl

/-- There is one setting of its kind to be replaced. -/
theorem countP_isLike (c : FieldConfig) {e : Edit} (he : e.isDraft = false) :
    c.settings.countP (fun setting => setting.isLike e) = 1 := by
  cases e with
  | draft => cases he
  | _ => rfl

/-- Of edits without a new draft the last of each kind counts. -/
theorem settings_edits (c : FieldConfig) {es : List Edit} (hes : ∀ e ∈ es, e.isDraft = false) :
    (es.foldl edit c).settings =
      c.settings.map fun setting => (es.reverse.find? setting.isLike).getD setting := by
  induction es generalizing c with
  | nil => simp
  | cons e es ih =>
      have hlater : ∀ other ∈ es, other.isDraft = false :=
        fun other hother => hes other (List.mem_cons_of_mem e hother)
      have hedit : (c.edit e).settings =
          c.settings.map fun setting => if setting.isLike e then e else setting := by
        have he := hes e List.mem_cons_self
        rw [settings_edit]
        cases e with
        | draft => cases he
        | _ => rfl
      rw [List.foldl_cons, ih (c.edit e) hlater, hedit, List.map_map]
      refine List.map_congr_left ?_
      intro setting _
      rw [Function.comp_apply, List.reverse_cons, List.find?_append, List.find?_singleton]
      by_cases hlike : setting.isLike e = true
      · -- What is like the edit is like the setting whose place it takes.
        have hsame : e.isLike = setting.isLike := by
          funext other
          rw [Edit.isLike, Edit.isLike, beq_iff_eq.mp hlike]
        rw [if_pos hlike, if_pos hlike, hsame]
        cases es.reverse.find? setting.isLike <;> rfl
      · rw [if_neg hlike, if_neg hlike, Option.or_none]

end FieldConfig

/-- The panel keeps its key under edits; the draft is edited as a configuration. -/
theorem Panel.edits (panel : Panel) (es : List Edit) :
    es.foldl Panel.edit panel = ⟨panel.key, es.foldl FieldConfig.edit panel.draft⟩ := by
  induction es generalizing panel with
  | nil => rfl
  | cons e es ih => exact ih (panel.edit e)

end QueryCanvas
