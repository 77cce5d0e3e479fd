import QueryCanvas.Proofs.Directive.KeyText
import QueryCanvas.Proofs.Fields.Run
import QueryCanvas.Proofs.Query.Priority

/-!
# Keys and their texts in a store

A store holds each key once, but a specification names fields by the texts of their keys, and two
keys may share a text. `Desk.run_texts_apart` says when all texts in a store are distinct after a
run of gestures, in particular if no table name holds a point, and that then no section of a
compiled specification names a field twice.
-/

namespace QueryCanvas

/-- No two keys of the store are written alike. -/
def FieldConfigs.WrittenApart (store : FieldConfigs) : Prop :=
  (store.keys.map FieldKey.text).Nodup

/-- No section that has an entry for a field has two entries for fields that are written alike. -/
structure Specification.FieldsApart (spec : Specification) : Prop where
  groupBy : spec.groupBy.Nodup
  filters : (spec.filters.map (·.field)).Nodup
  sortBy : (spec.sortBy.map (·.field)).Nodup

variable {store : FieldConfigs}

/-- The keys of a store are written apart exactly if none overlaps another. -/
theorem writtenApart_iff :
    store.WrittenApart ↔ ∀ a ∈ store.keys, ∀ b ∈ store.keys, ¬ a.Overlaps b := by
  constructor
  · intro hapart a ha b hb hoverlaps
    have hsame : a = b := List.inj_on_of_nodup_map hapart ha hb hoverlaps.text_eq
    exact a.not_overlaps_self (hsame ▸ hoverlaps)
  · intro hfree
    refine List.Nodup.map_on ?_ store.distinct
    intro a ha b hb htext
    rcases FieldKey.text_eq_iff.mp htext with hsame | hoverlaps | hoverlaps
    · exact hsame
    · exact absurd hoverlaps (hfree a ha b hb)
    · exact absurd hoverlaps (hfree b hb a ha)

/-- If each contribution is named by the text of its key, the names are among the texts of the keys,
in their order. -/
theorem sublist_texts {α : Type} {contribute : FieldKey × FieldConfig → Option α}
    {name : α → String}
    (hname : ∀ {entry e}, contribute entry = some e → name e = entry.1.text)
    (entries : List (FieldKey × FieldConfig)) :
    ((entries.filterMap contribute).map name).Sublist
      ((entries.map Prod.fst).map FieldKey.text) := by
  induction entries with
  | nil => exact .slnil
  | cons entry entries ih =>
      cases hentry : contribute entry with
      | none =>
          rw [List.filterMap_cons_none hentry]
          exact ih.cons _
      | some e =>
          rw [List.filterMap_cons_some hentry, List.map_cons, hname hentry]
          exact ih.cons_cons _

/-- Keys that are written apart name no field twice in a compiled section. -/
theorem FieldConfigs.WrittenApart.fieldsApart (hapart : store.WrittenApart)
    (inferred : Option (List ReferenceEntry)) (tableNames : List String) :
    (compile store inferred tableNames).FieldsApart where
  groupBy := by
    rw [← List.map_id (compile store inferred tableNames).groupBy]
    refine (sublist_texts ?_ store.entries).nodup hapart
    intro entry e he
    obtain ⟨-, htext⟩ := Option.ite_none_right_eq_some.mp he
    exact (Option.some.inj htext).symm
  filters := by
    refine (sublist_texts ?_ store.entries).nodup hapart
    intro entry e he
    obtain ⟨f, -, rfl⟩ := Option.map_eq_some_iff.mp he
    rfl
  sortBy := by
    refine ((perm_sortByPriority _).map _).nodup_iff.mpr ?_
    refine (sublist_texts ?_ store.entries).nodup hapart
    intro entry e he
    obtain ⟨s, -, rfl⟩ := Option.map_eq_some_iff.mp he
    rfl

namespace Desk

/-- After any run of gestures the keys in the store are written apart exactly if none overlaps
another, in particular if all panels were opened on tables without a point in their names. Then no
field is grouped by, filtered or sorted by twice in a compiled specification. -/
theorem run_texts_apart (gestures : List Gesture) :
    let store := (Desk.empty.run gestures).store
    (store.WrittenApart ↔ ∀ a ∈ store.keys, ∀ b ∈ store.keys, ¬ a.Overlaps b) ∧
      ((∀ key ∈ openedKeys gestures, '.' ∉ key.table.toList) → store.WrittenApart) ∧
      (store.WrittenApart → ∀ inferred tableNames,
        (compile store inferred tableNames).FieldsApart) := by
  intro store
  refine ⟨writtenApart_iff, ?_, ?_⟩
  · intro hpoint
    rw [writtenApart_iff]
    intro a ha b hb hoverlaps
    exact hpoint b (run_opened hb) hoverlaps.point_mem
  · intro hapart inferred tableNames
    exact hapart.fieldsApart inferred tableNames

/-- Open a panel on a key, make the configuration the draft, and save; the panel stands at the
place. -/
def configure (place : Nat) (key : FieldKey) (config : FieldConfig) : List Gesture :=
  [.openPanel key, .edit place (.draft config), .save place]

/-- A configuration that enters every section by the text of its key. -/
def everywhere : FieldConfig :=
  { filter := some ⟨.equal, "1"⟩, groupBy := true, sortBy := some ⟨.ascending, 0⟩ }

/-- Field names may hold points. -/
theorem run_texts_apart_fields :
    let gestures :=
      configure 0 ⟨"orders", "total"⟩ everywhere ++ configure 1 ⟨"orders", "total.net"⟩ everywhere
    (∀ key ∈ openedKeys gestures, '.' ∉ key.table.toList) ∧
      (Desk.empty.run gestures).store.WrittenApart ∧
      (compile (Desk.empty.run gestures).store none []).FieldsApart := by
  intro gestures
  have hpoint : ∀ key ∈ openedKeys gestures, '.' ∉ key.table.toList := by decide
  obtain ⟨-, happly, hcompile⟩ := run_texts_apart gestures
  exact ⟨hpoint, happly hpoint, hcompile (happly hpoint) none []⟩

/-- A point in the name of a table lets two keys be written alike. Both are stored, and every
section names the text twice. -/
theorem run_texts_collide :
    let store := (Desk.empty.run
      (configure 0 ⟨"sales.orders", "id"⟩ everywhere ++
        configure 1 ⟨"sales", "orders.id"⟩ everywhere)).store
    let spec := compile store none []
    store.keys.map FieldKey.text = ["sales.orders.id", "sales.orders.id"] ∧
      spec.groupBy = ["sales.orders.id", "sales.orders.id"] ∧
      spec.filters.map (·.field) = ["sales.orders.id", "sales.orders.id"] ∧
      spec.sortBy.map (·.field) = ["sales.orders.id", "sales.orders.id"] := by
  decide +kernel

end Desk

end QueryCanvas
