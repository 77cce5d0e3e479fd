import Mathlib.Data.List.Permutation
import QueryCanvas.Catalog.Structure
import QueryCanvas.Proofs.Json.OneField

/-!
# The tables of a catalog document

A catalog document may name a table twice, and a table a column twice. What it gives, repeated names
included, is what `Structure.givenDecoder` reads; the document is read as this with the repeated
names put together (`Structure.decoder_eq`). So each table and each field has its own name, they
stand in the order in which the names first came and are made of what came last
(`Structure.toTables_given`), and no lookup in a table is ambiguous (`Table.MadeOf`).
-/

namespace QueryCanvas

open Json

/-! ## What a document gives -/

/-- The columns that a document gives a table, in document order. A name may come again. -/
def TableStructure.givenDecoder : Decoder (List (String × String)) :=
  (Decoder.record "struct TableStructure" [.withDefault "columns" (.members .string) []]).map
    fun filled => filled.1

/-- The tables that a document gives with their columns, in document order. A name may come
again. -/
def Structure.givenDecoder : Decoder (List (String × List (String × String))) :=
  (Decoder.record "struct DbStructure"
    [.withDefault "tables" (.members TableStructure.givenDecoder) []]).map fun filled => filled.1

/-- A table structure with the columns that a document gives. -/
def TableStructure.ofGiven (columns : List (String × String)) : TableStructure :=
  ⟨OrderedMap.ofList columns⟩

/-- The structure with the tables that a document gives. -/
def Structure.ofGiven (tables : List (String × List (String × String))) : Structure :=
  ⟨OrderedMap.ofList (tables.map (Prod.map id TableStructure.ofGiven))⟩

theorem TableStructure.decoder_eq : decoder = givenDecoder.map ofGiven := by
  have hchanges : Slot.Changes (.withDefault "columns" (.members .string) [])
      (.withDefault "columns" (.dictionary .string) .empty) OrderedMap.ofList :=
    ⟨rfl, Decoder.dictionary_eq .string, rfl⟩
  exact Decoder.record_map "struct TableStructure" hchanges TableStructure.mk

/-- A catalog document is read as it is given, and then its repeated names are put together. -/
theorem Structure.decoder_eq : decoder = givenDecoder.map ofGiven := by
  have hdecoder : Decoder.dictionary TableStructure.decoder =
      (Decoder.members TableStructure.givenDecoder).map fun tables =>
        OrderedMap.ofList (tables.map (Prod.map id TableStructure.ofGiven)) := by
    rw [Decoder.dictionary_eq, TableStructure.decoder_eq, Decoder.members_map, Decoder.map_map]
  have hchanges : Slot.Changes (.withDefault "tables" (.members TableStructure.givenDecoder) [])
      (.withDefault "tables" (.dictionary TableStructure.decoder) .empty) fun tables =>
        OrderedMap.ofList (tables.map (Prod.map id TableStructure.ofGiven)) :=
    ⟨rfl, hdecoder, rfl⟩
  exact Decoder.record_map "struct DbStructure" hchanges Structure.mk

/-! ## Lookups -/

/-- If only one item can fit, it is the one that is found. -/
theorem find?_eq_some_iff_of_unique {α : Type} {p : α → Bool} {xs : List α}
    (hunique : ∀ x ∈ xs, ∀ y ∈ xs, p x = true → p y = true → x = y) {x : α} :
    xs.find? p = some x ↔ x ∈ xs ∧ p x = true := by
  constructor
  · exact fun hfound => ⟨List.mem_of_find?_eq_some hfound, List.find?_some hfound⟩
  · rintro ⟨hmem, hfits⟩
    have hsome : (xs.find? p).isSome = true := List.find?_isSome.mpr ⟨x, hmem, hfits⟩
    obtain ⟨y, hfound⟩ := Option.isSome_iff_exists.mp hsome
    rw [hfound, hunique y (List.mem_of_find?_eq_some hfound) x hmem (List.find?_some hfound) hfits]

/-! ## The fields of a table -/

theorem FieldType.ofColumn_ne_relation (column dbType : String) :
    ofColumn column dbType ≠ .relation := by
  dsimp only [ofColumn]
  split_ifs <;> exact FieldType.noConfusion

theorem Field.type_ofColumn (column dbType : String) :
    (ofColumn column dbType).type = FieldType.ofColumn column dbType := by
  rw [ofColumn]

theorem Field.isPrimaryKey_ofColumn (column dbType : String) :
    (ofColumn column dbType).isPrimaryKey = true ↔ column = "id" :=
  beq_iff_eq

/-- A primary key is no foreign key. -/
theorem Field.isForeignKey_ofColumn {column dbType : String}
    (hkey : (ofColumn column dbType).isPrimaryKey = true) :
    (ofColumn column dbType).isForeignKey = false := by
  have hid := (isPrimaryKey_ofColumn column dbType).mp hkey
  simp [ofColumn, hid]

namespace Table

/-- The table is made of columns that may repeat a name: it has one field for each name, in the
order in which the names first came, typed by the type that came last. -/
structure MadeOf (columns : List (String × String)) (t : Table) : Prop where
  ids : t.fields.map Field.id = (columns.map Prod.fst).eraseDups
  typed : ∀ f ∈ t.fields, ∃ dbType, columns.reverse.lookup f.id = some dbType ∧
    f = Field.ofColumn f.id dbType

/-- No lookup in the table is ambiguous, and no field is what a column cannot be. -/
structure WellFormed (t : Table) : Prop where
  distinct : (t.fields.map Field.id).Nodup
  found : ∀ id f, t.field? id = some f ↔ f ∈ t.fields ∧ f.id = id
  primaryKeys : t.fields.countP Field.isPrimaryKey ≤ 1
  primaryKey : ∀ f, t.primaryKey? = some f ↔ f ∈ t.fields ∧ f.id = "id"
  keys : ∀ f ∈ t.fields, ¬(f.isPrimaryKey = true ∧ f.isForeignKey = true)
  types : ∀ f ∈ t.fields, f.type ≠ .relation

/-- The fields are the columns that the map holds, typed. -/
theorem mem_fields_ofColumns {name : String} {columns : OrderedMap String String} {f : Field} :
    f ∈ (ofColumns name columns.entries).fields ↔
      ∃ dbType, columns.get? f.id = some dbType ∧ f = Field.ofColumn f.id dbType := by
  rw [ofColumns, List.mem_map]
  constructor
  · rintro ⟨entry, hentry, rfl⟩
    exact ⟨entry.2, OrderedMap.get?_eq_some_iff.mpr hentry, rfl⟩
  · rintro ⟨dbType, hstored, hf⟩
    exact ⟨(f.id, dbType), OrderedMap.get?_eq_some_iff.mp hstored, hf.symm⟩

theorem ids_ofColumns (name : String) (columns : OrderedMap String String) :
    (ofColumns name columns.entries).fields.map Field.id = columns.keys := by
  rw [ofColumns, List.map_map]
  rfl

theorem madeOf_ofColumns (name : String) (columns : List (String × String)) :
    (ofColumns name (OrderedMap.ofList columns).entries).MadeOf columns where
  ids := by rw [ids_ofColumns, OrderedMap.keys_ofList]
  typed f hf := by
    obtain ⟨dbType, hstored, htyped⟩ := mem_fields_ofColumns.mp hf
    rw [OrderedMap.get?_ofList] at hstored
    exact ⟨dbType, hstored, htyped⟩

namespace MadeOf

variable {columns : List (String × String)} {t : Table}

variable {f g : Field}

theorem nodup_ids (h : t.MadeOf columns) : (t.fields.map Field.id).Nodup :=
  h.ids ▸ nodup_eraseDups _

/-- There is one field of an id. -/
theorem eq_of_id (h : t.MadeOf columns) (hf : f ∈ t.fields) (hg : g ∈ t.fields)
    (hid : f.id = g.id) : f = g :=
  List.inj_on_of_nodup_map h.nodup_ids hf hg hid

theorem isPrimaryKey_iff (h : t.MadeOf columns) (hf : f ∈ t.fields) :
    f.isPrimaryKey = true ↔ f.id = "id" := by
  obtain ⟨dbType, -, htyped⟩ := h.typed f hf
  rw [htyped]
  exact Field.isPrimaryKey_ofColumn f.id dbType

theorem field?_eq_some_iff (h : t.MadeOf columns) {id : String} :
    t.field? id = some f ↔ f ∈ t.fields ∧ f.id = id := by
  have hunique : ∀ f ∈ t.fields, ∀ g ∈ t.fields, (f.id == id) = true → (g.id == id) = true →
      f = g := fun f hf g hg hfid hgid =>
    h.eq_of_id hf hg ((beq_iff_eq.mp hfid).trans (beq_iff_eq.mp hgid).symm)
  rw [field?, find?_eq_some_iff_of_unique hunique, beq_iff_eq]

theorem primaryKey?_eq_some_iff (h : t.MadeOf columns) :
    t.primaryKey? = some f ↔ f ∈ t.fields ∧ f.id = "id" := by
  have hunique : ∀ f ∈ t.fields, ∀ g ∈ t.fields, f.isPrimaryKey = true →
      g.isPrimaryKey = true → f = g := fun f hf g hg hfkey hgkey =>
    h.eq_of_id hf hg
      (((h.isPrimaryKey_iff hf).mp hfkey).trans ((h.isPrimaryKey_iff hg).mp hgkey).symm)
  rw [primaryKey?, find?_eq_some_iff_of_unique hunique]
  exact and_congr_right fun hf => h.isPrimaryKey_iff hf

theorem countP_isPrimaryKey_le (h : t.MadeOf columns) :
    t.fields.countP Field.isPrimaryKey ≤ 1 := by
  have hcount : t.fields.countP Field.isPrimaryKey = (t.fields.map Field.id).count "id" := by
    rw [List.count_eq_countP, List.countP_map]
    refine List.countP_congr fun f hf => ?_
    rw [h.isPrimaryKey_iff hf, Function.comp_apply, beq_iff_eq]
  rw [hcount]
  exact List.nodup_iff_count_le_one.mp h.nodup_ids "id"

/-- A table that is made of columns is well formed. -/
theorem wellFormed (h : t.MadeOf columns) : t.WellFormed where
  distinct := h.nodup_ids
  found id f := h.field?_eq_some_iff
  primaryKeys := h.countP_isPrimaryKey_le
  primaryKey f := h.primaryKey?_eq_some_iff
  keys := by
    rintro f hf ⟨hprimary, hforeign⟩
    obtain ⟨dbType, -, htyped⟩ := h.typed f hf
    rw [htyped] at hprimary hforeign
    rw [Field.isForeignKey_ofColumn hprimary] at hforeign
    cases hforeign
  types := by
    intro f hf
    obtain ⟨dbType, -, htyped⟩ := h.typed f hf
    rw [htyped, Field.type_ofColumn]
    exact FieldType.ofColumn_ne_relation f.id dbType

/-- The primary key is there exactly if a column is named so. -/
theorem primaryKey?_isSome_iff (h : t.MadeOf columns) :
    t.primaryKey?.isSome = true ↔ "id" ∈ columns.map Prod.fst := by
  rw [← List.mem_eraseDups, ← h.ids, List.mem_map, Option.isSome_iff_exists]
  exact exists_congr fun f => h.primaryKey?_eq_some_iff

end MadeOf

end Table

/-! ## All tables -/

theorem lookup_map_snd {α β : Type} (f : α → β) (entries : List (String × α)) (key : String) :
    (entries.map (Prod.map id f)).lookup key = (entries.lookup key).map f := by
  induction entries with
  | nil => rfl
  | cons entry entries ih =>
      rw [List.map_cons, List.lookup_cons, List.lookup_cons, ih]
      by_cases hkey : key = entry.1
      · simp [hkey]
      · simp [beq_eq_false_iff_ne.mpr hkey]

namespace Structure

theorem names_toTables (s : Structure) : s.toTables.map Table.name = s.tables.keys := by
  rw [toTables, List.map_map]
  rfl

/-- The tables are those that the map holds. -/
theorem mem_toTables {s : Structure} {t : Table} (ht : t ∈ s.toTables) :
    ∃ made, s.tables.get? t.name = some made ∧
      t = Table.ofColumns t.name made.columns.entries := by
  obtain ⟨entry, hentry, rfl⟩ := List.mem_map.mp ht
  exact ⟨entry.2, OrderedMap.get?_eq_some_iff.mpr hentry, rfl⟩

/-- Whatever document is read, its tables have the names that it gives, each once and in the order
in which they first came. Each table is made of what came last under its name, and is well
formed. -/
theorem toTables_given {text : String} {s : Structure} (hread : decoder.read text = .ok s) :
    ∃ given, givenDecoder.read text = .ok given ∧
      s.toTables.map Table.name = (given.map Prod.fst).eraseDups ∧
      (s.toTables.map Table.name).Nodup ∧
      ∀ t ∈ s.toTables, t.WellFormed ∧
        ∃ columns, given.reverse.lookup t.name = some columns ∧ t.MadeOf columns ∧
          (t.primaryKey?.isSome = true ↔ "id" ∈ columns.map Prod.fst) := by
  rw [decoder_eq, Decoder.read_map] at hread
  obtain ⟨given, hgiven, rfl⟩ := map_eq_ok_iff.mp hread
  have hnames : (ofGiven given).toTables.map Table.name = (given.map Prod.fst).eraseDups := by
    rw [names_toTables, ofGiven, OrderedMap.keys_ofList, List.map_map]
    rfl
  refine ⟨given, hgiven, hnames, hnames ▸ nodup_eraseDups _, fun t ht => ?_⟩
  obtain ⟨made, hmade, ht⟩ := mem_toTables ht
  -- The structure under the name of the table is made of the columns that came last.
  rw [ofGiven, OrderedMap.get?_ofList, ← List.map_reverse, lookup_map_snd] at hmade
  obtain ⟨columns, hcolumns, rfl⟩ := Option.map_eq_some_iff.mp hmade
  have hmadeOf : t.MadeOf columns := by
    rw [ht]
    exact Table.madeOf_ofColumns t.name columns
  exact ⟨hmadeOf.wellFormed, columns, hcolumns, hmadeOf, hmadeOf.primaryKey?_isSome_iff⟩

/-- A document that names a table twice, and a column of it twice. -/
def repeated : String :=
  "\x7b\"tables\":\x7b\"t\":\x7b\"columns\":\x7b\"a\":\"int\"\x7d\x7d,\"u\":\x7b\x7d," ++
    "\"t\":\x7b\"columns\":\x7b\"id\":\"int\",\"a\":\"text\",\"id\":\"date\"\x7d\x7d\x7d\x7d"

/-- The last description of the table replaces the first, at its place, and so does the last type of
the column. -/
theorem toTables_given_repeated :
    ∃ s, decoder.read repeated = .ok s ∧
      s.toTables = [.ofColumns "t" [("id", "date"), ("a", "text")], .ofColumns "u" []] ∧
      ∀ t ∈ s.toTables, t.WellFormed := by
  have hread : decoder.read repeated =
      .ok (ofGiven [("t", [("id", "date"), ("a", "text")]), ("u", [])]) := by
    cbv
  obtain ⟨_, -, -, -, htables⟩ := toTables_given hread
  exact ⟨_, hread, rfl, fun t ht => (htables t ht).1⟩

end Structure

end QueryCanvas
