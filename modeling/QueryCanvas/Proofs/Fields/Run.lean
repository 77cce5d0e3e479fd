import Mathlib.Data.List.Basic
import QueryCanvas.Fields.Store

/-!
# Runs of panels on a store

A desk is a store with the panels that are open on it; several may be open on one key. Gestures
open, edit, copy, save and discard panels and take snapshots of the store. `Desk.Step` says all that
a gesture does. Editing and copying keep the key of a panel, and only panels are saved, so over a
whole run no key is stored but those that panels were opened on (`Desk.run_opened`).
-/

namespace QueryCanvas

/-- A store, its panels, each at the place where it was opened, and its snapshots. A panel that was
saved or discarded leaves its place empty. -/
structure Desk where
  store : FieldConfigs
  panels : List (Option Panel)
  snapshots : List FieldConfigs

namespace Desk

/-- The desk without configurations and panels. -/
def empty : Desk :=
  ⟨OrderedMap.empty, [], []⟩

/-- The panel that is open at a place. -/
def panel? (d : Desk) (place : Nat) : Option Panel :=
  d.panels[place]?.join

/-- A gesture at the desk. One on a panel that is not open does nothing. -/
inductive Gesture where
  | openPanel (key : FieldKey)
  | edit (place : Nat) (e : Edit)
  | copy (place : Nat)
  | save (place : Nat)
  | discard (place : Nat)
  | snapshot
deriving DecidableEq

/-- The key that a gesture opens a panel on. -/
def Gesture.opened? : Gesture → Option FieldKey
  | .openPanel key => some key
  | _ => none

/-- The place of the panel that a gesture is about. -/
def Gesture.place? : Gesture → Option Nat
  | .edit place _ | .copy place | .save place | .discard place => some place
  | _ => none

/-- The keys that gestures open panels on, in their order. -/
def openedKeys (gestures : List Gesture) : List FieldKey :=
  gestures.filterMap Gesture.opened?

/-- Perform a gesture. -/
def perform (d : Desk) : Gesture → Desk
  | .openPanel key => { d with panels := d.panels ++ [some (d.store.openPanel key)] }
  | .edit place e =>
      match d.panel? place with
      | some panel => { d with panels := d.panels.set place (some (panel.edit e)) }
      | none => d
  | .copy place =>
      match d.panel? place with
      | some panel => { d with panels := d.panels ++ [some panel] }
      | none => d
  | .save place =>
      match d.panel? place with
      | some panel => { d with store := d.store.save panel, panels := d.panels.set place none }
      | none => d
  | .discard place => { d with panels := d.panels.set place none }
  | .snapshot => { d with snapshots := d.snapshots ++ [d.store] }

/-- Perform gestures in turn. -/
def run (d : Desk) : List Gesture → Desk
  | [] => d
  | g :: gestures => (d.perform g).run gestures

/-- What a gesture does: it opens, edits, copies, saves or closes the panel at its place or takes a
snapshot. If no panel is open at its place, it changes nothing. -/
inductive Step (d : Desk) : Gesture → Desk → Prop where
  | opened (key) :
      Step d (.openPanel key) { d with panels := d.panels ++ [some (d.store.openPanel key)] }
  | edited {place panel} (e) :
      d.panel? place = some panel →
      Step d (.edit place e) { d with panels := d.panels.set place (some (panel.edit e)) }
  | copied {place panel} :
      d.panel? place = some panel →
      Step d (.copy place) { d with panels := d.panels ++ [some panel] }
  | saved {place panel} :
      d.panel? place = some panel →
      Step d (.save place) { d with store := d.store.save panel, panels := d.panels.set place none }
  | discarded (place) : Step d (.discard place) { d with panels := d.panels.set place none }
  | taken : Step d .snapshot { d with snapshots := d.snapshots ++ [d.store] }
  | ignored {g place} : g.place? = some place → d.panel? place = none → Step d g d

/-- Performing a gesture does nothing else. -/
theorem step_perform (d : Desk) (g : Gesture) : d.Step g (d.perform g) := by
  cases g with
  | openPanel key => exact .opened key
  | discard place => exact .discarded place
  | snapshot => exact .taken
  | edit place e =>
      cases hpanel : d.panel? place with
      | none => simpa [perform, hpanel] using Step.ignored rfl hpanel
      | some panel => simpa [perform, hpanel] using Step.edited e hpanel
  | copy place =>
      cases hpanel : d.panel? place with
      | none => simpa [perform, hpanel] using Step.ignored rfl hpanel
      | some panel => simpa [perform, hpanel] using Step.copied hpanel
  | save place =>
      cases hpanel : d.panel? place with
      | none => simpa [perform, hpanel] using Step.ignored rfl hpanel
      | some panel => simpa [perform, hpanel] using Step.saved hpanel

/-- All keys that are stored or open are among the given ones. -/
structure Opened (keys : List FieldKey) (d : Desk) : Prop where
  stored : ∀ key ∈ d.store.keys, key ∈ keys
  panels : ∀ panel, some panel ∈ d.panels → panel.key ∈ keys

variable {d next : Desk} {g : Gesture} {keys : List FieldKey}

/-- An open panel is among the panels. -/
theorem mem_panels_of_panel? {place : Nat} {panel : Panel} (h : d.panel? place = some panel) :
    some panel ∈ d.panels :=
  List.mem_of_getElem? (Option.join_eq_some_iff.mp h)

namespace Opened

/-- The desk without configurations and panels has no keys. -/
theorem empty : Desk.empty.Opened [] where
  stored := by simp [Desk.empty, OrderedMap.empty, OrderedMap.keys]
  panels := by simp [Desk.empty]

/-- More keys may be given. -/
theorem mono (h : d.Opened keys) (more : List FieldKey) : d.Opened (keys ++ more) where
  stored := fun key hkey => List.mem_append_left _ (h.stored key hkey)
  panels := fun panel hpanel => List.mem_append_left _ (h.panels panel hpanel)

/-- A panel on a given key may be added. -/
theorem append (h : d.Opened keys) {panel : Panel} (hkey : panel.key ∈ keys) :
    { d with panels := d.panels ++ [some panel] }.Opened keys where
  stored := h.stored
  panels := by
    intro other hother
    rcases List.mem_append.mp hother with hold | hnew
    · exact h.panels other hold
    · rw [List.mem_singleton, Option.some.injEq] at hnew
      exact hnew ▸ hkey

/-- A panel may be closed or replaced by one on a given key. -/
theorem set (h : d.Opened keys) (place : Nat) {panel : Option Panel}
    (hkey : ∀ new, panel = some new → new.key ∈ keys) :
    { d with panels := d.panels.set place panel }.Opened keys where
  stored := h.stored
  panels := by
    intro other hother
    rcases List.mem_or_eq_of_mem_set hother with hold | hnew
    · exact h.panels other hold
    · exact hkey other hnew.symm

/-- An open panel may be saved. -/
theorem save (h : d.Opened keys) {panel : Panel} (hkey : panel.key ∈ keys) :
    { d with store := d.store.save panel }.Opened keys where
  stored := by
    intro key hmem
    rw [FieldConfigs.save, OrderedMap.keys_insert] at hmem
    split at hmem
    · exact h.stored key hmem
    · rcases List.mem_append.mp hmem with hold | hnew
      · exact h.stored key hold
      · exact List.mem_singleton.mp hnew ▸ hkey
  panels := h.panels

end Opened

/-- A gesture adds the key that it opens a panel on, and no other. -/
theorem Step.opened_keys (h : d.Step g next) (hopened : d.Opened keys) :
    next.Opened (keys ++ g.opened?.toList) := by
  have hkey : ∀ {place panel}, d.panel? place = some panel → panel.key ∈ keys := by
    intro place panel hpanel
    exact hopened.panels panel (mem_panels_of_panel? hpanel)
  cases h with
  | opened key => exact (hopened.mono [key]).append (List.mem_append_right _ List.mem_cons_self)
  | edited e hpanel =>
      -- An edit changes the draft and keeps the key.
      have hmem := hkey hpanel
      refine (hopened.set _ ?_).mono _
      rintro _ ⟨⟩
      exact hmem
  | copied hpanel => exact (hopened.append (hkey hpanel)).mono _
  | saved hpanel => exact ((hopened.save (hkey hpanel)).set _ (by simp)).mono _
  | discarded place => exact (hopened.set place (by simp)).mono _
  | taken =>
      have htaken : { d with snapshots := d.snapshots ++ [d.store] }.Opened keys :=
        ⟨hopened.stored, hopened.panels⟩
      exact htaken.mono _
  | ignored => exact hopened.mono _

/-- A run adds the keys that its gestures open panels on, and no others. -/
theorem Opened.run (h : d.Opened keys) (gestures : List Gesture) :
    (d.run gestures).Opened (keys ++ openedKeys gestures) := by
  induction gestures generalizing d keys with
  | nil =>
      rw [openedKeys, List.filterMap_nil, List.append_nil]
      exact h
  | cons g gestures ih =>
      have hkeys : keys ++ openedKeys (g :: gestures) =
          keys ++ g.opened?.toList ++ openedKeys gestures := by
        simp only [openedKeys, List.filterMap_eq_flatMap_toList, List.flatMap_cons,
          List.append_assoc]
      rw [hkeys]
      exact ih ((d.step_perform g).opened_keys h)

/-- On a desk that was empty, no key is stored but those that panels were opened on. -/
theorem run_opened {gestures : List Gesture} {key : FieldKey}
    (hkey : key ∈ (Desk.empty.run gestures).store.keys) : key ∈ openedKeys gestures := by
  simpa using (Opened.empty.run gestures).stored key hkey

end Desk

end QueryCanvas
