import Mathlib.Data.List.Nodup
import QueryCanvas.Catalog.Structure
import QueryCanvas.Directive.Basic
import QueryCanvas.Proofs.Json.Dictionaries
import QueryCanvas.Proofs.Json.Fields

/-!
# Reading what was written

`RoundTrips` ties a decoder to the writer of its type: all that is written is read back, as a value
and as a text. It goes from the parts of a type to the type, for lists, for dictionaries, for values
that are left out when they are unset, for records (`RoundTrips.record`), whose members stand in the
order of the slots, and for choices between records (`RoundTrips.tagged`).
-/

namespace QueryCanvas.Json

variable {α : Type}

/-- The decoder reads back all that is written: as a value, and as a text when at least so many
containers may be opened. All numbers that are written are finite. -/
structure RoundTrips (d : Decoder α) (write : α → Json) (height : Nat) : Prop where
  faithful : d.Faithful height
  ofJson_write : ∀ x, d.ofJson (write x) = .ok x
  proper : ∀ x, Proper (write x)

/-- A member that may be left out has one name. -/
theorem names_optionalMember_sublist (name : String) (write : α → Json) (x : Option α) :
    ((optionalMember name write x).map Prod.fst).Sublist [name] := by
  cases x with
  | none => exact List.nil_sublist [name]
  | some y => exact .refl [name]

theorem lookup_optionalMember (name : String) (write : α → Json) (x : Option α) (other : String) :
    (optionalMember name write x).lookup other = if other = name then x.map write else none := by
  cases x with
  | none => simp [optionalMember]
  | some y =>
      rw [optionalMember, List.lookup_cons]
      by_cases hname : other = name
      · rw [if_pos hname, beq_iff_eq.mpr hname]
        rfl
      · rw [if_neg hname, beq_eq_false_iff_ne.mpr hname]
        rfl

/-- A record is read from members that stand in the order of its slots. -/
theorem record_ofJson_of_sublist {slots : List Slot} (label : String)
    (hnames : (slots.map Slot.name).Nodup) {members : List (String × Json)}
    (horder : (members.map Prod.fst).Sublist (slots.map Slot.name)) {filled : Filled slots}
    (hfilled : Takes members slots filled) :
    (Decoder.record label slots).ofJson (.object members) = .ok filled := by
  have hcount : ∀ slot ∈ slots, (members.map Prod.fst).count slot.name ≤ 1 := fun slot _ =>
    List.nodup_iff_count_le_one.mp (hnames.sublist horder) slot.name
  exact (record_ofJson_object_iff label hnames).mpr ⟨hcount, hfilled⟩

namespace RoundTrips

theorem string : RoundTrips .string .string 0 where
  faithful := Decoder.string_faithful
  ofJson_write _ := rfl
  proper := .string

/-- A 32-bit number is its own whole number. -/
theorem int32 : RoundTrips .int32 (fun n => .int n.toInt) 0 where
  faithful := Decoder.int32_faithful
  ofJson_write n := by
    have hlow := Int32.minValue_le_toInt n
    have hhigh := Int32.toInt_le n
    show Decoder.toInt32 n.toInt = .ok n
    rw [Decoder.toInt32, if_pos ⟨hlow, hhigh⟩, Int32.ofInt_toInt]
  proper n := .int n.toInt

/-- A choice whose names are told apart. -/
theorem oneOf {options : List (String × α)} {name : α → String}
    (hname : ∀ x, options.lookup (name x) = some x) :
    RoundTrips (.oneOf options) (fun x => .string (name x)) 1 where
  faithful := Decoder.oneOf_faithful options
  ofJson_write x := by
    show Decoder.choose options (name x) = .ok x
    rw [Decoder.choose, hname]
  proper x := .string (name x)

/-- A list of what is read back is read back. -/
theorem list {d : Decoder α} {write : α → Json} {height : Nat} (hd : RoundTrips d write height) :
    RoundTrips d.list (fun xs => .array (xs.map write)) (height + 1) where
  faithful := hd.faithful.list
  ofJson_write xs := by
    show (xs.map write).mapM d.ofJson = .ok xs
    induction xs with
    | nil => rfl
    | cons x xs ih => rw [List.map_cons, List.mapM_cons, hd.ofJson_write, ih]; rfl
  proper xs := by
    refine .array fun j hj => ?_
    obtain ⟨x, -, rfl⟩ := List.mem_map.mp hj
    exact hd.proper x

/-- A map of what is read back is read back. -/
theorem dictionary {d : Decoder α} {write : α → Json} {height : Nat}
    (hd : RoundTrips d write height) :
    RoundTrips d.dictionary (TableStructure.mapJson write) (height + 1) where
  faithful := hd.faithful.dictionary
  ofJson_write m := by
    have hmembers : ∀ entries : List (String × α),
        d.members.ofJson (.object (entries.map fun entry => (entry.1, write entry.2))) =
          .ok entries := by
      intro entries
      induction entries with
      | nil => rfl
      | cons entry entries ih =>
          rw [List.map_cons, Decoder.members_ofJson_cons, ih, hd.ofJson_write]
          rfl
    rw [Decoder.dictionary_eq]
    exact map_eq_ok_iff.mpr ⟨m.entries, hmembers m.entries, OrderedMap.ofList_entries m⟩
  proper m := by
    refine .object fun entry hentry => ?_
    obtain ⟨entry, -, rfl⟩ := List.mem_map.mp hentry
    exact hd.proper entry.2

/-- A value that is left out when it is unset is read back, with nothing for its absence. -/
theorem takes_optional {d : Decoder α} {write : α → Json} {height : Nat}
    (hd : RoundTrips d write height) (hnull : ∀ x, write x ≠ .null) {name : String}
    {members : List (String × Json)} {x : Option α}
    (hmembers : members.lookup name = (optionalMember name write x).lookup name) :
    (Slot.withDefault name d.nullable none).Takes members x := by
  cases x with
  | none => exact Slot.takes_default hmembers rfl
  | some y =>
      have hsome : members.lookup name = some (write y) := by
        rw [hmembers, optionalMember, List.lookup_cons, beq_self_eq_true]
      refine Slot.takes_of_lookup hsome ?_
      show d.nullable.ofJson (write y) = .ok (some y)
      rw [d.nullable_ofJson (hnull y), hd.ofJson_write]
      rfl

theorem proper_optional {d : Decoder α} {write : α → Json} {height : Nat}
    (hd : RoundTrips d write height) {name : String} (x : Option α) :
    ∀ m ∈ optionalMember name write x, Proper m.2 := by
  cases x with
  | none => simp [optionalMember]
  | some y => simp [optionalMember, hd.proper]

/-- A record whose members stand in the order of its slots is read back. -/
theorem record {slots : List Slot} (values : α → Filled slots) {label : String}
    {build : Filled slots → α} {members : α → List (String × Json)} {height : Nat}
    (hnames : (slots.map Slot.name).Nodup) (hslots : ∀ slot ∈ slots, slot.decoder.Faithful height)
    (horder : ∀ x, ((members x).map Prod.fst).Sublist (slots.map Slot.name))
    (hvalues : ∀ x, Takes (members x) slots (values x)) (hbuild : ∀ x, build (values x) = x)
    (hproper : ∀ x, ∀ m ∈ members x, Proper m.2) :
    RoundTrips ((Decoder.record label slots).map build) (fun x => .object (members x))
      (height + 1) where
  faithful := (Decoder.record_faithful label hslots).map build
  ofJson_write x := by
    have hread := record_ofJson_of_sublist label hnames (horder x) (hvalues x)
    exact map_eq_ok_iff.mpr ⟨_, hread, hbuild x⟩
  proper x := .object (hproper x)

/-- A choice between records is read back if its names are told apart and the record of each name
reads back its own values. -/
theorem tagged {options : List (String × Decoder α)} {name : α → String} {body : α → Json}
    {height : Nat} (hoptions : ∀ o ∈ options, o.2.Faithful height)
    (hbody : ∀ x, ∃ d, options.lookup (name x) = some d ∧ d.ofJson (body x) = .ok x)
    (hproper : ∀ x, Proper (body x)) :
    RoundTrips (.tagged options) (fun x => .object [(name x, body x)]) (height + 1) where
  faithful := Decoder.tagged_faithful hoptions
  ofJson_write x := by
    obtain ⟨d, hlookup, hread⟩ := hbody x
    have hchosen : Decoder.choose options (name x) = .ok d := by rw [Decoder.choose, hlookup]
    exact bind_eq_ok_iff.mpr ⟨d, hchosen, hread⟩
  proper x := by
    refine .object fun m hm => ?_
    rw [List.mem_singleton.mp hm]
    exact hproper x

end RoundTrips

end QueryCanvas.Json
