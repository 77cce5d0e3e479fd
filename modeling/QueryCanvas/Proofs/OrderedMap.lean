import QueryCanvas.OrderedMap
import QueryCanvas.Proofs.FirstOccurrences

/-!
# Maps made of entries

A map made of entries with repeated keys has each key once, in the order in which the keys first
came (`OrderedMap.keys_ofList`), with the value that came last (`OrderedMap.get?_ofList`). The
entries of a map make the map again (`OrderedMap.ofList_entries`).
-/

namespace QueryCanvas

variable {κ α : Type} [DecidableEq κ]

/-- The entry of a new key comes last. -/
theorem insertEntry_of_notMem {key : κ} {entries : List (κ × α)}
    (hnew : key ∉ entries.map Prod.fst) (value : α) :
    insertEntry key value entries = entries ++ [(key, value)] := by
  induction entries with
  | nil => rfl
  | cons entry rest ih =>
      obtain ⟨k, v⟩ := entry
      rw [List.map_cons, List.mem_cons, not_or] at hnew
      rw [insertEntry, if_neg (Ne.symm hnew.1), ih hnew.2]
      rfl

namespace OrderedMap

theorem ofList_concat (entries : List (κ × α)) (entry : κ × α) :
    ofList (entries ++ [entry]) = (ofList entries).insert entry.1 entry.2 := by
  rw [ofList, List.foldl_append]
  rfl

/-- The keys stand in the order in which they first came. -/
theorem keys_ofList (entries : List (κ × α)) :
    (ofList entries).keys = (entries.map Prod.fst).eraseDups := by
  induction entries using List.reverseRecOn with
  | nil => rfl
  | append_singleton entries entry ih =>
      rw [ofList_concat, keys_insert, ih, List.map_append, List.map_singleton, eraseDups_concat]
      simp only [List.mem_eraseDups]

/-- A key has the value that came last under it. -/
theorem get?_ofList (entries : List (κ × α)) (key : κ) :
    (ofList entries).get? key = entries.reverse.lookup key := by
  induction entries using List.reverseRecOn with
  | nil => rfl
  | append_singleton entries entry ih =>
      rw [ofList_concat, get?_insert, ih, List.reverse_append, List.reverse_singleton,
        List.singleton_append, List.lookup_cons]
      by_cases hkey : key = entry.1
      · rw [if_pos hkey, beq_iff_eq.mpr hkey]
      · rw [if_neg hkey, beq_eq_false_iff_ne.mpr hkey]

/-- Entries whose keys are told apart stand in the map as they came. -/
theorem entries_ofList {entries : List (κ × α)} (hdistinct : (entries.map Prod.fst).Nodup) :
    (ofList entries).entries = entries := by
  induction entries using List.reverseRecOn with
  | nil => rfl
  | append_singleton entries entry ih =>
      rw [List.map_append, List.map_singleton, List.nodup_append] at hdistinct
      obtain ⟨hbefore, -, hne⟩ := hdistinct
      have hnew : entry.1 ∉ entries.map Prod.fst := fun hmem =>
        hne entry.1 hmem entry.1 List.mem_cons_self rfl
      rw [ofList_concat]
      show insertEntry entry.1 entry.2 (ofList entries).entries = entries ++ [entry]
      rw [ih hbefore, insertEntry_of_notMem hnew]

/-- A map is made of its own entries. -/
theorem ofList_entries (m : OrderedMap κ α) : ofList m.entries = m := by
  obtain ⟨entries, hdistinct⟩ := m
  have hentries : (ofList entries).entries = entries := entries_ofList hdistinct
  show ofList entries = ⟨entries, hdistinct⟩
  generalize ofList entries = made at hentries ⊢
  cases made
  subst hentries
  rfl

end OrderedMap

end QueryCanvas
