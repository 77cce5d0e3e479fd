import Mathlib.Data.List.Basic
import QueryCanvas.Proofs.Fields.Run
import QueryCanvas.Proofs.OrderedMap

/-!
# What the history says of a desk

A history keeps the books of a run without looking at a configuration: for every panel its key, the
moment at which it was opened and its line of edits, for every save the panel, and for every
snapshot the moment (`Desk.History`). Together with the stores that there were in the meantime it
determines the desk: `Desk.Told` is what it says of one, `Desk.Told.note` that a gesture and its
entry in the books agree, and `Desk.run_told` that they still do after any run. `Desk.run_history`
reads off what is stored, what the open panels show and what the snapshots hold.
-/

namespace QueryCanvas

namespace Desk

/-- The books on one panel: its key, the number of gestures before it was opened, and the edits
since then. A copy goes on with the books of the panel that it was made of. -/
structure Line where
  key : FieldKey
  opened : Nat
  edits : List Edit
deriving DecidableEq

/-- The draft of a panel: what was stored under its key when it was opened, or the default
configuration, after its own edits. -/
def Line.draft (storeAt : Nat → FieldConfigs) (line : Line) : FieldConfig :=
  line.edits.foldl FieldConfig.edit
    (((storeAt line.opened).get? line.key).getD FieldConfig.default)

/-- The panel that the books tell of. -/
def Line.panel (storeAt : Nat → FieldConfigs) (line : Line) : Panel :=
  ⟨line.key, line.draft storeAt⟩

/-- The entry that saving the panel makes. -/
def Line.entry (storeAt : Nat → FieldConfigs) (line : Line) : FieldKey × FieldConfig :=
  (line.key, line.draft storeAt)

/-- The books of a run: the number of gestures so far, the panels at their places, the saved panels
in the order of the saves, and the moments of the snapshots. -/
structure History where
  length : Nat
  panels : List (Option Line)
  saved : List Line
  taken : List Nat
deriving DecidableEq

namespace History

/-- The books before the first gesture. -/
def empty : History :=
  ⟨0, [], [], []⟩

/-- The books on the panel that is open at a place. -/
def line? (history : History) (place : Nat) : Option Line :=
  history.panels[place]?.join

/-- The changes that a gesture makes to the books, apart from their length. -/
def record (history : History) : Gesture → History
  | .openPanel key =>
      { history with panels := history.panels ++ [some ⟨key, history.length, []⟩] }
  | .edit place e =>
      match history.line? place with
      | some line =>
          { history with
            panels := history.panels.set place (some { line with edits := line.edits ++ [e] }) }
      | none => history
  | .copy place =>
      match history.line? place with
      | some line => { history with panels := history.panels ++ [some line] }
      | none => history
  | .save place =>
      match history.line? place with
      | some line =>
          { history with
            panels := history.panels.set place none
            saved := history.saved ++ [line] }
      | none => history
  | .discard place => { history with panels := history.panels.set place none }
  | .snapshot => { history with taken := history.taken ++ [history.length] }

/-- Note a gesture. -/
def note (history : History) (g : Gesture) : History :=
  { history.record g with length := history.length + 1 }

/-- Note gestures in turn. -/
def notes (history : History) : List Gesture → History
  | [] => history
  | g :: gestures => (history.note g).notes gestures

end History

/-! ## One gesture -/

/-- The books tell of the desk. The store has the keys of the saved panels in the order of their
first saves, each with the draft that was saved last. The panels and the snapshots are those of the
books, each panel under its key with its draft. -/
structure Told (storeAt : Nat → FieldConfigs) (history : History) (d : Desk) : Prop where
  keys : d.store.keys = (history.saved.map Line.key).eraseDups
  stored : ∀ key, d.store.get? key =
    (history.saved.map (Line.entry storeAt)).reverse.lookup key
  panels : d.panels = history.panels.map (Option.map (Line.panel storeAt))
  snapshots : d.snapshots = history.taken.map storeAt

variable {storeAt : Nat → FieldConfigs} {history : History} {d : Desk}

/-- A further edit in the books is an edit of the panel. -/
theorem Line.panel_edit (line : Line) (e : Edit) :
    { line with edits := line.edits ++ [e] : Line }.panel storeAt =
      (line.panel storeAt).edit e := by
  simp [Line.panel, Line.draft, Panel.edit]

namespace Told

/-- The empty books tell of the empty desk. -/
theorem empty (storeAt : Nat → FieldConfigs) : Desk.empty.Told storeAt History.empty where
  keys := rfl
  stored := fun _ => rfl
  panels := rfl
  snapshots := rfl

/-- The panel at a place is the one that the books tell of. -/
theorem panel?_eq (h : d.Told storeAt history) (place : Nat) :
    d.panel? place = (history.line? place).map (Line.panel storeAt) := by
  rw [panel?, History.line?, h.panels, List.getElem?_map]
  cases history.panels[place]? <;> rfl

/-- A panel that the books tell of may be added. -/
theorem append (h : d.Told storeAt history) (line : Line) :
    { d with panels := d.panels ++ [some (line.panel storeAt)] }.Told storeAt
      { history with panels := history.panels ++ [some line] } where
  keys := h.keys
  stored := h.stored
  panels := by simp [h.panels]
  snapshots := h.snapshots

/-- A panel may be closed or replaced by one that the books tell of. -/
theorem set (h : d.Told storeAt history) (place : Nat) (line : Option Line) :
    { d with panels := d.panels.set place (line.map (Line.panel storeAt)) }.Told storeAt
      { history with panels := history.panels.set place line } where
  keys := h.keys
  stored := h.stored
  panels := by simp [h.panels, List.map_set]
  snapshots := h.snapshots

/-- A panel that the books tell of may be saved. -/
theorem save (h : d.Told storeAt history) (line : Line) :
    { d with store := d.store.save (line.panel storeAt) }.Told storeAt
      { history with saved := history.saved ++ [line] } where
  keys := by
    show (d.store.insert line.key (line.draft storeAt)).keys = _
    rw [OrderedMap.keys_insert, h.keys, List.map_append, List.map_singleton, eraseDups_concat]
    simp only [List.mem_eraseDups]
  stored := by
    intro key
    show (d.store.insert line.key (line.draft storeAt)).get? key = _
    rw [OrderedMap.get?_insert, h.stored, List.map_append, List.reverse_append]
    by_cases hkey : key = line.key
    · subst hkey
      simp [Line.entry]
    · simp [Line.entry, List.lookup_cons, beq_false_of_ne hkey, hkey]
  panels := h.panels
  snapshots := h.snapshots

/-- The length of the books says nothing of the desk. -/
theorem setLength (h : d.Told storeAt history) (length : Nat) :
    d.Told storeAt { history with length := length } :=
  ⟨h.keys, h.stored, h.panels, h.snapshots⟩

/-- A gesture and its entry in the books agree. -/
theorem note (h : d.Told storeAt history) (hnow : storeAt history.length = d.store)
    (g : Gesture) : (d.perform g).Told storeAt (history.note g) := by
  refine setLength ?_ (history.length + 1)
  cases g with
  | openPanel key =>
      have hopened : Line.panel storeAt ⟨key, history.length, []⟩ = d.store.openPanel key := by
        simp [Line.panel, Line.draft, FieldConfigs.openPanel, hnow]
      have happend := h.append ⟨key, history.length, []⟩
      rw [hopened] at happend
      exact happend
  | edit place e =>
      have hpanel := h.panel?_eq place
      cases hline : history.line? place with
      | none => simpa [perform, History.record, hpanel, hline] using h
      | some line =>
          have hset := h.set place (some { line with edits := line.edits ++ [e] })
          rw [Option.map_some, Line.panel_edit] at hset
          simpa [perform, History.record, hpanel, hline] using hset
  | copy place =>
      have hpanel := h.panel?_eq place
      cases hline : history.line? place with
      | none => simpa [perform, History.record, hpanel, hline] using h
      | some line => simpa [perform, History.record, hpanel, hline] using h.append line
  | save place =>
      have hpanel := h.panel?_eq place
      cases hline : history.line? place with
      | none => simpa [perform, History.record, hpanel, hline] using h
      | some line =>
          have hsaved := (h.save line).set place none
          simpa [perform, History.record, hpanel, hline] using hsaved
  | discard place => exact h.set place none
  | snapshot =>
      exact {
        keys := h.keys
        stored := h.stored
        panels := h.panels
        snapshots := by simp [perform, History.record, h.snapshots, hnow] }

end Told

/-! ## All gestures -/

/-- If the books tell of a desk, they still do after any gestures that are noted in them. The stores
in the meantime are those of the run. -/
theorem Told.run (h : d.Told storeAt history) (gestures : List Gesture)
    (hstores : ∀ n, storeAt (history.length + n) = (d.run (gestures.take n)).store) :
    (d.run gestures).Told storeAt (history.notes gestures) := by
  induction gestures generalizing d history with
  | nil => exact h
  | cons g gestures ih =>
      have hnow : storeAt history.length = d.store := hstores 0
      refine ih (h.note hnow g) ?_
      intro n
      have hlater := hstores (n + 1)
      rw [List.take_succ_cons] at hlater
      rw [show (history.note g).length + n = history.length + (n + 1) by
        show history.length + 1 + n = history.length + (n + 1)
        omega]
      exact hlater

/-- The store after the first gestures of a run. -/
def storeAfter (gestures : List Gesture) (n : Nat) : FieldConfigs :=
  (Desk.empty.run (gestures.take n)).store

/-- The books of a run tell of the desk at its end. -/
theorem run_told (gestures : List Gesture) :
    (Desk.empty.run gestures).Told (storeAfter gestures) (History.empty.notes gestures) := by
  refine (Told.empty _).run gestures ?_
  intro n
  rw [storeAfter, show History.empty.length + n = n from Nat.zero_add n]

/-- Saving a panel at once after it was opened on a stored key leaves the store as it was. -/
theorem save_openPanel {store : FieldConfigs} {key : FieldKey} (hkey : key ∈ store.keys) :
    store.save (store.openPanel key) = store := by
  have hstored : (store.get? key).isSome := OrderedMap.contains_iff.mpr hkey
  obtain ⟨config, hconfig⟩ := Option.isSome_iff_exists.mp hstored
  rw [FieldConfigs.save]
  refine OrderedMap.insert_of_get? ?_
  simp [FieldConfigs.openPanel, hconfig]

/-- A panel that is opened and saved at once is the panel that is saved. -/
theorem run_open_save (d : Desk) (key : FieldKey) :
    (d.run [.openPanel key, .save d.panels.length]).store =
      d.store.save (d.store.openPanel key) := by
  simp [run, perform, panel?]

/-- A desk against its history. After any gestures the store lists the keys of all saved panels,
each once and in the order of the first saves, with the whole draft that was saved last; its size
and its lookups agree with that list. Every open panel shows what was stored under its key when it,
or the panel that it is a copy of, was opened, after its own edits. Every snapshot is the store of
its moment. Opening a stored key and saving it leaves the store as it was. -/
theorem run_history (gestures : List Gesture) :
    let d := Desk.empty.run gestures
    let history := History.empty.notes gestures
    let saves := history.saved.map (Line.entry (storeAfter gestures))
    d.store.entries.map Prod.fst = (saves.map Prod.fst).eraseDups ∧
      (∀ entry ∈ d.store.entries, saves.reverse.lookup entry.1 = some entry.2) ∧
      d.store.size = (saves.map Prod.fst).eraseDups.length ∧
      (∀ key, d.store.contains key = true ↔ key ∈ saves.map Prod.fst) ∧
      (∀ key, d.store.get? key = saves.reverse.lookup key) ∧
      d.panels = history.panels.map (Option.map (Line.panel (storeAfter gestures))) ∧
      d.snapshots = history.taken.map (storeAfter gestures) ∧
      ∀ key ∈ d.store.keys,
        (d.run [.openPanel key, .save d.panels.length]).store = d.store := by
  intro d history saves
  have htold : d.Told (storeAfter gestures) history := run_told gestures
  have hsaved : saves.map Prod.fst = history.saved.map Line.key := by
    rw [List.map_map]
    rfl
  have hkeys : d.store.keys = (saves.map Prod.fst).eraseDups := by
    rw [hsaved]
    exact htold.keys
  refine ⟨hkeys, ?_, ?_, ?_, htold.stored, htold.panels, htold.snapshots, ?_⟩
  · intro entry hentry
    rw [← htold.stored]
    exact OrderedMap.get?_eq_some_iff.mpr hentry
  · rw [← hkeys, OrderedMap.size, OrderedMap.keys, List.length_map]
  · intro key
    rw [OrderedMap.contains_iff, hkeys, List.mem_eraseDups]
  · intro key hkey
    rw [run_open_save, save_openPanel hkey]

/-- A copy goes on with the edits of its original, which does not get those of the copy. -/
example :
    (History.empty.notes
      [.openPanel ⟨"orders", "id"⟩, .edit 0 (.groupBy true), .copy 0, .edit 1 (.included false)]
      ).panels =
      [some ⟨⟨"orders", "id"⟩, 0, [.groupBy true]⟩,
       some ⟨⟨"orders", "id"⟩, 0, [.groupBy true, .included false]⟩] := by
  decide

end Desk

end QueryCanvas
