import Mathlib.Logic.Relation
import QueryCanvas.Proofs.Json.Fields

/-!
# Rewordings that a record ignores

The object of a record can be worded in many ways that all say the same: its members may stand in
any order, a member that says no more than its absence may be left out or written, members of names
that the record does not know may be added, and the objects within it may be reworded. A `Leeway`
lists what a record allows, and `Leeway.Step` is one such change. A record whose slots fit the
leeway reads the same from the changed object (`Decoder.record_ignores`), and so after any number of
changes (`Decoder.Ignores.many`).
-/

namespace QueryCanvas.Json

open Relation

/-- What may be changed in the object of a record: `names` are the names that the record knows,
`silent` are the members that say no more than their absence, and `parts` are the changes that the
member of a name may undergo. -/
structure Leeway where
  names : List String
  silent : List (String × Json)
  parts : List (String × (Json → Json → Prop))

/-- One change in the object of a record. What is done to the first member can be done to any, as
the members may be reordered. -/
inductive Leeway.Step (l : Leeway) : Json → Json → Prop where
  | reorder {ms ns} : ms.Perm ns → l.Step (.object ms) (.object ns)
  | leaveOut {m ms} : m ∈ l.silent → l.Step (.object (m :: ms)) (.object ms)
  | fillIn {m ms} :
      m ∈ l.silent → m.1 ∉ ms.map Prod.fst → l.Step (.object ms) (.object (m :: ms))
  | add {m ms} : m.1 ∉ l.names → l.Step (.object ms) (.object (m :: ms))
  | within {name change i j ms} :
      (name, change) ∈ l.parts → change i j →
        l.Step (.object ((name, i) :: ms)) (.object ((name, j) :: ms))

namespace Decoder

variable {α β : Type} {d : Decoder α} {change : Json → Json → Prop}

/-- A value that is read is read as the same value after the change. -/
def Ignores (d : Decoder α) (change : Json → Json → Prop) : Prop :=
  ∀ i j x, change i j → d.ofJson i = .ok x → d.ofJson j = .ok x

theorem Ignores.many (hd : d.Ignores change) : d.Ignores (ReflTransGen change) := by
  intro i j x hchanges hx
  induction hchanges with
  | refl => exact hx
  | tail _ hstep ih => exact hd _ _ x hstep ih

theorem Ignores.map (hd : d.Ignores change) (f : α → β) : (d.map f).Ignores change := by
  intro i j y hchange hy
  obtain ⟨x, hx, rfl⟩ := map_eq_ok_iff.mp hy
  exact map_ofJson (hd i j x hchange hx) f

/-- What may be null ignores changes between values that are not. -/
theorem Ignores.nullable (hd : d.Ignores change)
    (hnull : ∀ i j, change i j → i ≠ .null ∧ j ≠ .null) : d.nullable.Ignores change := by
  intro i j x hchange hx
  obtain ⟨hi, hj⟩ := hnull i j hchange
  rw [nullable_ofJson d hi] at hx
  rw [nullable_ofJson d hj]
  obtain ⟨y, hy, rfl⟩ := map_eq_ok_iff.mp hx
  exact map_eq_ok_iff.mpr ⟨y, hd i j y hchange hy, rfl⟩

end Decoder

/-- The slots of a record read what the leeway says: they have its names, a silent member is read as
the default of its slot, and a slot ignores the changes of its member. -/
structure Leeway.Fits (l : Leeway) (slots : List Slot) : Prop where
  names : slots.map Slot.name = l.names
  nodup : l.names.Nodup
  silent : ∀ m ∈ l.silent, ∃ slot ∈ slots, slot.name = m.1 ∧
    ∃ x, slot.default? = some x ∧ slot.decoder.ofJson m.2 = .ok x
  parts : ∀ p ∈ l.parts, ∃ slot ∈ slots, slot.name = p.1 ∧
    slot.decoder.Ignores p.2

variable {l : Leeway} {slots : List Slot}

/-- Only objects are changed. -/
theorem Leeway.Step.ne_null {i j : Json} (h : l.Step i j) : i ≠ .null ∧ j ≠ .null := by
  cases h <;> exact ⟨Json.noConfusion, Json.noConfusion⟩

namespace Leeway.Fits

variable {slot : Slot} {m : String × Json} {ms : List (String × Json)}

/-- There is one slot of a name. -/
theorem eq_of_name (h : l.Fits slots) {other : Slot} (hslot : slot ∈ slots)
    (hother : other ∈ slots) (hname : slot.name = other.name) : slot = other :=
  List.inj_on_of_nodup_map (h.names ▸ h.nodup) hslot hother hname

/-- A silent member makes no difference to a slot, but there must be no other of its name. -/
theorem comesTo_silent_iff (h : l.Fits slots) (hslot : slot ∈ slots) (hm : m ∈ l.silent)
    {x : slot.Value} :
    slot.ComesTo (m :: ms) none x ↔
      slot.ComesTo ms none x ∧ (slot.name = m.1 → slot.name ∉ ms.map Prod.fst) := by
  obtain ⟨other, hother, hotherName, y, hdefault, hread⟩ := h.silent m hm
  by_cases hname : slot.name = m.1
  · obtain rfl := h.eq_of_name hslot hother (hname.trans hotherName.symm)
    rw [Slot.comesTo_cons_self hname, hread]
    constructor
    · rintro ⟨⟨⟩, habsent⟩
      exact ⟨(Slot.comesTo_of_notMem habsent).mpr hdefault, fun _ => habsent⟩
    · rintro ⟨hx, habsent⟩
      rw [Slot.comesTo_of_notMem (habsent hname), hdefault] at hx
      cases hx
      exact ⟨rfl, habsent hname⟩
  · rw [Slot.comesTo_cons_of_ne hname]
    exact ⟨fun hx => ⟨hx, fun heq => absurd heq hname⟩, And.left⟩

/-- A member of an unknown name makes no difference to a slot. -/
theorem comesTo_add_iff (h : l.Fits slots) (hslot : slot ∈ slots) (hm : m.1 ∉ l.names)
    {x : slot.Value} : slot.ComesTo (m :: ms) none x ↔ slot.ComesTo ms none x := by
  have hknown : slot.name ∈ l.names := h.names ▸ List.mem_map_of_mem hslot
  exact Slot.comesTo_cons_of_ne fun heq => hm (heq ▸ hknown)

/-- What a part may undergo makes no difference to a slot. -/
theorem comesTo_within (h : l.Fits slots) (hslot : slot ∈ slots) {name : String}
    {change : Json → Json → Prop} (hpart : (name, change) ∈ l.parts) {i j : Json}
    (hchange : change i j) {x : slot.Value} (hx : slot.ComesTo ((name, i) :: ms) none x) :
    slot.ComesTo ((name, j) :: ms) none x := by
  obtain ⟨other, hother, hotherName, hignores⟩ := h.parts (name, change) hpart
  by_cases hname : slot.name = name
  · obtain rfl := h.eq_of_name hslot hother (hname.trans hotherName.symm)
    obtain ⟨hmember, habsent⟩ := (Slot.comesTo_cons_self hname).mp hx
    exact (Slot.comesTo_cons_self hname).mpr ⟨hignores i j x hchange hmember, habsent⟩
  · exact (Slot.comesTo_cons_of_ne hname).mpr ((Slot.comesTo_cons_of_ne hname).mp hx)

end Leeway.Fits

/-- A record ignores what the leeway allows. -/
theorem Decoder.record_ignores (label : String) (h : l.Fits slots) :
    (record label slots).Ignores l.Step := by
  intro i j filled hstep
  have hnodup : (slots.map Slot.name).Nodup := h.names ▸ h.nodup
  cases hstep with
  | reorder hperm =>
      exact record_ofJson_imp label hnodup fun slot _ x => (Slot.comesTo_perm hperm).mp
  | leaveOut hm =>
      exact record_ofJson_imp label hnodup fun slot hslot x hx =>
        ((h.comesTo_silent_iff hslot hm).mp hx).1
  | fillIn hm hnew =>
      exact record_ofJson_imp label hnodup fun slot hslot x hx =>
        (h.comesTo_silent_iff hslot hm).mpr ⟨hx, fun hname => hname ▸ hnew⟩
  | add hm =>
      exact record_ofJson_imp label hnodup fun slot hslot x => (h.comesTo_add_iff hslot hm).mpr
  | within hpart hchange =>
      exact record_ofJson_imp label hnodup fun slot hslot x =>
        h.comesTo_within hslot hpart hchange

end QueryCanvas.Json
