/-!
# Maps in order of first insertion

A map holds its entries in the order in which their keys first came, each key once. Inserting an
existing key replaces the value and keeps the place, as `keys_insert` and `get?_insert` say.
-/

namespace QueryCanvas

/-- Replace the value of a key at its place, or append the entry if the key is new. -/
def insertEntry {κ α : Type} [DecidableEq κ] (key : κ) (value : α) :
    List (κ × α) → List (κ × α)
  | [] => [(key, value)]
  | (k, v) :: rest =>
      if k = key then (k, value) :: rest else (k, v) :: insertEntry key value rest

theorem mem_keys_insertEntry {κ α : Type} [DecidableEq κ] {key k : κ} {value : α}
    {entries : List (κ × α)} :
    k ∈ (insertEntry key value entries).map Prod.fst ↔ k ∈ entries.map Prod.fst ∨ k = key := by
  induction entries with
  | nil => simp [insertEntry]
  | cons entry rest ih =>
      obtain ⟨k', v⟩ := entry
      by_cases h : k' = key
      · subst h
        simp [insertEntry]
        grind
      · simp only [insertEntry, h, if_false, List.map_cons, List.mem_cons, ih]
        grind

theorem nodup_keys_insertEntry {κ α : Type} [DecidableEq κ] {key : κ} {value : α}
    {entries : List (κ × α)} (distinct : (entries.map Prod.fst).Nodup) :
    ((insertEntry key value entries).map Prod.fst).Nodup := by
  induction entries with
  | nil => simp [insertEntry]
  | cons entry rest ih =>
      obtain ⟨k, v⟩ := entry
      rw [List.map_cons, List.nodup_cons] at distinct
      by_cases h : k = key
      · simp only [insertEntry, h, if_true, List.map_cons, List.nodup_cons]
        exact h ▸ distinct
      · simp only [insertEntry, h, if_false, List.map_cons, List.nodup_cons]
        refine ⟨fun mem => ?_, ih distinct.2⟩
        rcases mem_keys_insertEntry.1 mem with mem | same
        · exact distinct.1 mem
        · exact h same

/-- A map whose entries stand in the order of their first insertion. -/
structure OrderedMap (κ α : Type) where
  entries : List (κ × α)
  distinct : (entries.map Prod.fst).Nodup

namespace OrderedMap

variable {κ α : Type}

/-- The map without entries. -/
def empty : OrderedMap κ α :=
  ⟨[], List.nodup_nil⟩

instance : Inhabited (OrderedMap κ α) := ⟨empty⟩

instance [DecidableEq κ] [DecidableEq α] : DecidableEq (OrderedMap κ α) := fun a b =>
  decidable_of_iff (a.entries = b.entries) (by cases a; cases b; simp)

/-- Store a value under a key, at the key's old place if it has one. -/
def insert [DecidableEq κ] (m : OrderedMap κ α) (key : κ) (value : α) : OrderedMap κ α :=
  ⟨insertEntry key value m.entries, nodup_keys_insertEntry m.distinct⟩

/-- The map that storing the entries in turn gives. -/
def ofList [DecidableEq κ] (entries : List (κ × α)) : OrderedMap κ α :=
  entries.foldl (fun m (key, value) => m.insert key value) empty

/-- The value stored under a key. -/
def get? [DecidableEq κ] (m : OrderedMap κ α) (key : κ) : Option α :=
  m.entries.lookup key

/-- The keys in order. -/
def keys (m : OrderedMap κ α) : List κ :=
  m.entries.map Prod.fst

/-- A value is stored under the key. -/
def contains [DecidableEq κ] (m : OrderedMap κ α) (key : κ) : Bool :=
  (m.get? key).isSome

/-- The number of entries. -/
def size (m : OrderedMap κ α) : Nat :=
  m.entries.length

/-- The map has no entries. -/
def isEmpty (m : OrderedMap κ α) : Bool :=
  m.entries.isEmpty

theorem keys_insertEntry [DecidableEq κ] (key : κ) (value : α) (entries : List (κ × α)) :
    (insertEntry key value entries).map Prod.fst =
      if key ∈ entries.map Prod.fst then entries.map Prod.fst
      else entries.map Prod.fst ++ [key] := by
  induction entries with
  | nil => simp [insertEntry]
  | cons entry rest ih =>
      obtain ⟨k, v⟩ := entry
      by_cases h : k = key
      · simp [insertEntry, h]
      · simp only [insertEntry, h, if_false, List.map_cons, ih, List.mem_cons, Ne.symm h, false_or]
        split <;> simp

theorem lookup_insertEntry [DecidableEq κ] (key : κ) (value : α) (entries : List (κ × α))
    (k : κ) :
    (insertEntry key value entries).lookup k =
      if k = key then some value else entries.lookup k := by
  induction entries with
  | nil =>
      by_cases h : k = key
      · simp [insertEntry, h]
      · simp [insertEntry, List.lookup_cons, beq_false_of_ne h, h]
  | cons entry rest ih =>
      obtain ⟨k', v⟩ := entry
      by_cases h : k' = key
      · by_cases hk : k = key
        · simp [insertEntry, h, hk]
        · simp [insertEntry, List.lookup_cons, h, beq_false_of_ne hk, hk]
      · by_cases hk : k = k'
        · simp [insertEntry, hk, h]
        · simp [insertEntry, List.lookup_cons, h, beq_false_of_ne hk, ih]

/-- Storing a value where it stands already changes nothing. -/
theorem insertEntry_of_lookup [DecidableEq κ] {key : κ} {value : α} {entries : List (κ × α)}
    (hstored : entries.lookup key = some value) : insertEntry key value entries = entries := by
  induction entries with
  | nil => simp at hstored
  | cons entry rest ih =>
      obtain ⟨k, v⟩ := entry
      by_cases h : k = key
      · subst h
        rw [List.lookup_cons_self, Option.some.injEq] at hstored
        simp [insertEntry, hstored]
      · rw [List.lookup_cons, beq_false_of_ne (Ne.symm h)] at hstored
        simp [insertEntry, h, ih hstored]

/-- Storing under a known key keeps the keys; a new key comes last. -/
theorem keys_insert [DecidableEq κ] (m : OrderedMap κ α) (key : κ) (value : α) :
    (m.insert key value).keys = if key ∈ m.keys then m.keys else m.keys ++ [key] :=
  keys_insertEntry key value m.entries

/-- After storing, a key has the value stored last under it. -/
theorem get?_insert [DecidableEq κ] (m : OrderedMap κ α) (key : κ) (value : α) (k : κ) :
    (m.insert key value).get? k = if k = key then some value else m.get? k :=
  lookup_insertEntry key value m.entries k

/-- Storing a value that is stored already changes nothing. -/
theorem insert_of_get? [DecidableEq κ] {m : OrderedMap κ α} {key : κ} {value : α}
    (hstored : m.get? key = some value) : m.insert key value = m := by
  have hentries : (m.insert key value).entries = m.entries := insertEntry_of_lookup hstored
  cases m
  simpa [insert] using hentries

/-- The entries are the keys with the values stored under them. -/
theorem get?_eq_some_iff [DecidableEq κ] {m : OrderedMap κ α} {key : κ} {value : α} :
    m.get? key = some value ↔ (key, value) ∈ m.entries := by
  rw [get?, List.lookup_eq_some_iff]
  constructor
  · rintro ⟨before, after, hentries, -⟩
    rw [hentries]
    exact List.mem_append_right _ List.mem_cons_self
  · intro hmem
    obtain ⟨before, after, hentries⟩ := List.append_of_mem hmem
    refine ⟨before, after, hentries, ?_⟩
    intro entry hentry
    -- An earlier entry of the key would make the key stand twice.
    have hdistinct := m.distinct
    rw [hentries, List.map_append, List.map_cons, List.nodup_append] at hdistinct
    have hne := hdistinct.2.2 entry.1 (List.mem_map_of_mem hentry) key List.mem_cons_self
    simpa using Ne.symm hne

/-- A key has a value exactly if it is among the keys. -/
theorem contains_iff [DecidableEq κ] {m : OrderedMap κ α} {key : κ} :
    m.contains key = true ↔ key ∈ m.keys := by
  rw [contains, get?, List.lookup_isSome_iff, keys, List.mem_map]
  constructor
  · rintro ⟨entry, hentry, hkey⟩
    exact ⟨entry, hentry, (eq_of_beq hkey).symm⟩
  · rintro ⟨entry, hentry, rfl⟩
    exact ⟨entry, hentry, beq_self_eq_true _⟩

end OrderedMap

end QueryCanvas
