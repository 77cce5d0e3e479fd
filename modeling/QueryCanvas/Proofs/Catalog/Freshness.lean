import Mathlib.Data.List.DropRight
import QueryCanvas.Catalog.Client
import QueryCanvas.Catalog.Sidebar

/-!
# No stale tables

A browser is a sidebar with the fetches that its selections started. Each fetch keeps the data
source and the number of its selection, asks the catalog for that data source and delivers once, at
whatever moment; a fetch that is stopped never does. `Browser.shownAfter` says from the events alone
what is to be seen after them: the last data source, and the outcome of its own fetch once that has
arrived. `Browser.Follows` is the invariant that ties the sidebar and the numbers of the fetches to
the events, and `Browser.run_shows_last` says that no order of the events lets another outcome be
seen.
-/

namespace QueryCanvas

/-- A fetch that a selection started. -/
structure Fetch where
  dataSource : String
  generation : UInt64
deriving DecidableEq

/-- The result that a fetch delivers of what the catalog answers: the tables, or the text of the
failure. -/
def Fetch.result (f : Fetch) (catalog : Catalog Id) : Except String (List Table) :=
  Except.mapError CatalogError.message (catalog f.dataSource)

/-- What a sidebar shows of a selection: that its fetch is under way, or the outcome of it. -/
def Sidebar.showing (dataSource : String) (generation : UInt64) :
    Option (Except CatalogError (List Table)) → Sidebar
  | none => ⟨some dataSource, generation, true, [], none⟩
  | some (.ok tables) => ⟨some dataSource, generation, false, tables, none⟩
  | some (.error e) => ⟨some dataSource, generation, false, [], some e.message⟩

/-- A reader who waits for a selection is given the outcome of its fetch. -/
theorem Sidebar.loaded?_showing (dataSource : String) (generation : UInt64)
    (outcome : Option (Except CatalogError (List Table))) :
    (showing dataSource generation outcome).loaded? =
      outcome.map fun arrived => showing dataSource generation (some arrived) := by
  rcases outcome with _ | _ | _ <;> rfl

/-- A sidebar with its fetches, each at the place of its selection. A fetch that has delivered
leaves its place empty. -/
structure Browser where
  sidebar : Sidebar
  fetches : List (Option Fetch)

namespace Browser

/-- What happens to a browser: a data source is selected, or the fetch at a place gets an answer
from the catalog. -/
inductive Event where
  | select (dataSource : String)
  | deliver (place : Nat) (catalog : Catalog Id)

/-- The browser before the first selection. -/
def start : Browser :=
  ⟨{}, []⟩

/-- The fetch at a place that has not delivered yet. -/
def fetch? (b : Browser) (place : Nat) : Option Fetch :=
  b.fetches[place]?.join

/-- The browser after an event. A selection starts a fetch with the number of the selection; a fetch
delivers under the number that it keeps. A place without a fetch has nothing to deliver. -/
def perform (b : Browser) : Event → Browser
  | .select dataSource =>
      let sidebar := b.sidebar.select dataSource
      ⟨sidebar, b.fetches ++ [some ⟨dataSource, sidebar.generation⟩]⟩
  | .deliver place catalog =>
      match b.fetch? place with
      | some fetch =>
          ⟨b.sidebar.deliver fetch.generation (fetch.result catalog), b.fetches.set place none⟩
      | none => b

/-- The browser after events in turn. -/
def run (b : Browser) : List Event → Browser
  | [] => b
  | e :: events => (b.perform e).run events

/-- What a reader is given who waits while events happen: the first state in which no fetch is under
way. -/
def awaited (b : Browser) : List Event → Option Sidebar
  | [] => b.sidebar.loaded?
  | e :: events => b.sidebar.loaded?.or ((b.perform e).awaited events)

/-! ## What the events say -/

/-- The data source that an event selects. -/
def Event.selected? : Event → Option String
  | .select dataSource => some dataSource
  | .deliver _ _ => none

/-- The selected data sources, in their order. -/
def selections (events : List Event) : List String :=
  events.filterMap Event.selected?

/-- The answer that an event brings to the fetch at a place. -/
def Event.answer? (place : Nat) : Event → Option (Catalog Id)
  | .select _ => none
  | .deliver other catalog => if other = place then some catalog else none

/-- The events since the last selection. -/
def sinceSelection (events : List Event) : List Event :=
  events.rtakeWhile fun e => e.selected?.isNone

/-- The outcome of the fetch of the last selection, if it has arrived: the first answer that was
brought to it says what there is of its data source. -/
def outcome? (events : List Event) : Option (Except CatalogError (List Table)) :=
  (selections events).getLast?.bind fun dataSource =>
    ((sinceSelection events).findSome? (Event.answer? ((selections events).length - 1))).map
      fun catalog => catalog dataSource

/-- What is to be seen after events. -/
def shownAfter (events : List Event) : Sidebar :=
  match (selections events).getLast? with
  | none => {}
  | some dataSource =>
      .showing dataSource (UInt64.ofNat (selections events).length) (outcome? events)

variable {b : Browser} {events : List Event} {dataSource : String} {place : Nat}
  {catalog : Catalog Id}

@[simp] theorem selections_concat_select (events : List Event) (dataSource : String) :
    selections (events ++ [.select dataSource]) = selections events ++ [dataSource] := by
  simp [selections, Event.selected?]

@[simp] theorem selections_concat_deliver (events : List Event) (place : Nat)
    (catalog : Catalog Id) :
    selections (events ++ [.deliver place catalog]) = selections events := by
  simp [selections, Event.selected?]

/-- A selection has nothing to show yet. -/
theorem outcome?_concat_select (events : List Event) (dataSource : String) :
    outcome? (events ++ [.select dataSource]) = none := by
  simp [outcome?, sinceSelection, Event.selected?]

/-- An outcome that has arrived stays. Else an answer is the outcome if it is brought to the fetch
of the last selection. -/
theorem outcome?_concat_deliver (events : List Event) (place : Nat) (catalog : Catalog Id) :
    outcome? (events ++ [.deliver place catalog]) =
      (outcome? events).or
        (if place + 1 = (selections events).length then
          (selections events).getLast?.map fun dataSource => catalog dataSource
        else none) := by
  have hsince : sinceSelection (events ++ [.deliver place catalog]) =
      sinceSelection events ++ [.deliver place catalog] :=
    List.rtakeWhile_concat_pos _ _ _ rfl
  unfold outcome?
  rw [selections_concat_deliver, hsince, List.findSome?_append]
  cases hlast : (selections events).getLast? with
  | none => simp
  | some dataSource =>
      have hne : selections events ≠ [] := by
        rintro hnil
        rw [hnil] at hlast
        cases hlast
      have hpos : 0 < (selections events).length := List.length_pos_iff.mpr hne
      -- Places count from zero, selections from one.
      have hplace : place = (selections events).length - 1 ↔
          place + 1 = (selections events).length := by omega
      cases (sinceSelection events).findSome? (Event.answer? ((selections events).length - 1)) with
      | some earlier => rfl
      | none => by_cases h : place + 1 = (selections events).length <;>
          simp [Event.answer?, hplace, h]

/-- What is to be seen after a selection. -/
theorem shownAfter_concat_select (events : List Event) (dataSource : String) :
    shownAfter (events ++ [.select dataSource]) =
      .showing dataSource (UInt64.ofNat ((selections events).length + 1)) none := by
  unfold shownAfter
  rw [selections_concat_select, outcome?_concat_select, List.getLast?_append]
  simp

/-- What is to be seen belongs to the last data source. -/
theorem dataSource_shownAfter (events : List Event) :
    (shownAfter events).dataSource = (selections events).getLast? := by
  unfold shownAfter
  cases (selections events).getLast? with
  | none => rfl
  | some dataSource => rcases outcome? events with _ | _ | _ <;> rfl

/-- What is to be seen carries the number of the selections. -/
theorem generation_shownAfter (events : List Event) :
    (shownAfter events).generation = UInt64.ofNat (selections events).length := by
  unfold shownAfter
  cases hlast : (selections events).getLast? with
  | none =>
      rw [List.getLast?_eq_none_iff.mp hlast]
      rfl
  | some dataSource => rcases outcome? events with _ | _ | _ <;> rfl

/-- What is to be seen once a data source is selected. -/
theorem shownAfter_of_getLast? (hlast : (selections events).getLast? = some dataSource) :
    shownAfter events =
      .showing dataSource (UInt64.ofNat (selections events).length) (outcome? events) := by
  unfold shownAfter
  rw [hlast]

/-- An outcome that has arrived is to be seen. -/
theorem shownAfter_of_outcome? {outcome : Except CatalogError (List Table)}
    (houtcome : outcome? events = some outcome) :
    ∃ dataSource, shownAfter events =
      .showing dataSource (UInt64.ofNat (selections events).length) (some outcome) := by
  obtain ⟨dataSource, hlast, -⟩ := Option.bind_eq_some_iff.mp houtcome
  exact ⟨dataSource, houtcome ▸ shownAfter_of_getLast? hlast⟩

/-- Of one selection or more, one is the last. -/
theorem exists_getLast? (hplace : place + 1 = (selections events).length) :
    ∃ dataSource, (selections events).getLast? = some dataSource := by
  rw [← Option.isSome_iff_exists, List.getLast?_isSome]
  rintro hnil
  rw [hnil] at hplace
  cases hplace

/-! ## One event -/

/-- A place has a fetch only if a selection started one there. -/
theorem lt_of_fetch? {fetch : Fetch} (h : b.fetch? place = some fetch) :
    place < b.fetches.length := by
  have hplace : b.fetches[place]? = some (some fetch) := Option.join_eq_some_iff.mp h
  exact (List.getElem?_eq_some_iff.mp hplace).1

/-- A fetch is started at the next place. -/
theorem fetch?_append (s : Sidebar) (fetch : Fetch) (place : Nat) :
    fetch? ⟨s, b.fetches ++ [some fetch]⟩ place =
      if place = b.fetches.length then some fetch else b.fetch? place := by
  unfold fetch?
  by_cases hlt : place < b.fetches.length
  · rw [List.getElem?_append_left hlt, if_neg (Nat.ne_of_lt hlt)]
  · by_cases heq : place = b.fetches.length
    · subst heq
      simp
    · have hbeyond : b.fetches.length + 1 ≤ place := by omega
      rw [if_neg heq, List.getElem?_eq_none (by simpa using hbeyond),
        List.getElem?_eq_none (Nat.le_of_not_lt hlt)]

/-- A fetch that has delivered leaves its place empty, and no other. -/
theorem fetch?_set (s : Sidebar) (emptied place : Nat) :
    fetch? ⟨s, b.fetches.set emptied none⟩ place =
      if place = emptied then none else b.fetch? place := by
  unfold fetch?
  rw [List.getElem?_set]
  by_cases heq : emptied = place
  · subst heq
    by_cases hlt : emptied < b.fetches.length <;> simp [hlt]
  · simp [heq, Ne.symm heq]

/-- Whatever a fetch delivers, its place is empty then, and the other places are as before. -/
theorem fetch?_deliver (b : Browser) (delivering place : Nat) (catalog : Catalog Id) :
    (b.perform (.deliver delivering catalog)).fetch? place =
      if place = delivering then none else b.fetch? place := by
  cases hfetch : b.fetch? delivering with
  | some fetch =>
      simp only [perform, hfetch]
      exact fetch?_set _ delivering place
  | none =>
      simp only [perform, hfetch]
      by_cases heq : place = delivering
      · rw [if_pos heq, heq, hfetch]
      · rw [if_neg heq]

/-- A fetch that delivers takes no place away. -/
theorem length_fetches_deliver (b : Browser) (place : Nat) (catalog : Catalog Id) :
    (b.perform (.deliver place catalog)).fetches.length = b.fetches.length := by
  cases hfetch : b.fetch? place <;> simp [perform, hfetch]

/-- The sidebar shows the outcome that is delivered under its own number. -/
theorem deliver_showing (fetch : Fetch) (catalog : Catalog Id) :
    (Sidebar.showing fetch.dataSource fetch.generation none).deliver fetch.generation
        (fetch.result catalog) =
      .showing fetch.dataSource fetch.generation (some (catalog fetch.dataSource)) := by
  unfold Fetch.result
  rcases catalog fetch.dataSource with _ | _ <;> simp [Sidebar.showing, Sidebar.deliver,
    Except.mapError]

/-- The sidebar discards what is delivered under another number. -/
theorem deliver_of_ne {s : Sidebar} {generation : UInt64} (hother : s.generation ≠ generation)
    (result : Except String (List Table)) : s.deliver generation result = s :=
  if_pos hother

/-- The browser is as the events say: it has a place for each selection, the fetches keep the
numbers of their selections, the fetch of the last selection is under way until its outcome has
arrived, and what is shown is what is to be seen. -/
structure Follows (events : List Event) (b : Browser) : Prop where
  count : b.fetches.length = (selections events).length
  numbered : ∀ place fetch, b.fetch? place = some fetch →
    fetch.generation = UInt64.ofNat (place + 1)
  last : ∀ place dataSource, place + 1 = (selections events).length →
    (selections events).getLast? = some dataSource →
      b.fetch? place =
        if (outcome? events).isSome then none else some ⟨dataSource, UInt64.ofNat (place + 1)⟩
  shown : b.sidebar = shownAfter events

namespace Follows

/-- Before the first event. -/
theorem start : Browser.start.Follows [] where
  count := rfl
  numbered := by
    intro place fetch hfetch
    cases hfetch
  last := by
    intro place dataSource hplace
    cases hplace
  shown := rfl

/-- The sidebar carries the number of the selections. -/
theorem generation_eq (h : b.Follows events) :
    b.sidebar.generation = UInt64.ofNat (selections events).length := by
  rw [h.shown, generation_shownAfter]

/-- A selection is followed. -/
theorem select (h : b.Follows events) (dataSource : String) :
    (b.perform (.select dataSource)).Follows (events ++ [.select dataSource]) := by
  have hnext : (b.sidebar.select dataSource).generation =
      UInt64.ofNat ((selections events).length + 1) := by
    show b.sidebar.generation + 1 = _
    rw [h.generation_eq, UInt64.ofNat_add]
    rfl
  refine ⟨?_, ?_, ?_, ?_⟩
  · simp [perform, h.count]
  · intro place fetch hfetch
    simp only [perform, fetch?_append] at hfetch
    split at hfetch
    · rename_i heq
      cases hfetch
      rw [heq, h.count]
      exact hnext
    · exact h.numbered place fetch hfetch
  · intro place other hplace hlast
    have heq : place = b.fetches.length := by
      rw [selections_concat_select, List.length_append, List.length_singleton] at hplace
      rw [h.count]
      omega
    obtain rfl : dataSource = other := by simpa using hlast
    rw [outcome?_concat_select, perform, fetch?_append, if_pos heq, heq, h.count, hnext]
    rfl
  · rw [shownAfter_concat_select, ← hnext]
    rfl

/-- The fetch of a selection that is not the last one delivers nothing that is shown. -/
theorem superseded (h : b.Follows events) (hroom : (selections events).length < UInt64.size)
    (hother : place + 1 ≠ (selections events).length) (catalog : Catalog Id) :
    (b.perform (.deliver place catalog)).sidebar = b.sidebar := by
  cases hfetch : b.fetch? place with
  | none => simp only [perform, hfetch]
  | some fetch =>
      simp only [perform, hfetch]
      apply deliver_of_ne
      rw [h.generation_eq, h.numbered place fetch hfetch]
      -- The numbers differ as long as they are not used up.
      intro hsame
      have hlt : place < (selections events).length := h.count ▸ lt_of_fetch? hfetch
      have hnumbers := congrArg UInt64.toNat hsame
      rw [UInt64.toNat_ofNat_of_lt' hroom, UInt64.toNat_ofNat_of_lt' (by omega)] at hnumbers
      exact hother hnumbers.symm

/-- What the fetch of the last selection delivers is to be seen, unless it has delivered before. -/
theorem arrived (h : b.Follows events) (hplace : place + 1 = (selections events).length)
    (catalog : Catalog Id) :
    (b.perform (.deliver place catalog)).sidebar =
      shownAfter (events ++ [.deliver place catalog]) := by
  obtain ⟨dataSource, hlast⟩ := exists_getLast? hplace
  have hlater : (selections (events ++ [.deliver place catalog])).getLast? = some dataSource := by
    rw [selections_concat_deliver, hlast]
  -- The fetch is gone exactly if an outcome has arrived, which then stays.
  have hfetch := h.last place dataSource hplace hlast
  have hshown := h.shown
  rw [shownAfter_of_getLast? hlast] at hshown
  rw [shownAfter_of_getLast? hlater, outcome?_concat_deliver, selections_concat_deliver,
    if_pos hplace, hlast]
  cases houtcome : outcome? events with
  | some outcome =>
      rw [houtcome] at hfetch hshown
      simp only [perform, hfetch]
      exact hshown
  | none =>
      rw [houtcome] at hfetch hshown
      simp only [perform, hfetch, hshown]
      rw [← hplace]
      exact deliver_showing ⟨dataSource, UInt64.ofNat (place + 1)⟩ catalog

/-- What is delivered is followed. -/
theorem deliver (h : b.Follows events) (hroom : (selections events).length < UInt64.size)
    (place : Nat) (catalog : Catalog Id) :
    (b.perform (.deliver place catalog)).Follows (events ++ [.deliver place catalog]) := by
  refine ⟨?_, ?_, ?_, ?_⟩
  · rw [length_fetches_deliver, selections_concat_deliver, h.count]
  · intro other fetch hfetch
    rw [fetch?_deliver] at hfetch
    split at hfetch
    · cases hfetch
    · exact h.numbered other fetch hfetch
  · intro other dataSource hplace hlast
    rw [selections_concat_deliver] at hplace hlast
    rw [fetch?_deliver, outcome?_concat_deliver, h.last other dataSource hplace hlast, hlast]
    by_cases heq : other = place
    · subst heq
      cases outcome? events <;> simp [hplace]
    · have hother : place + 1 ≠ (selections events).length := by omega
      rw [if_neg heq, if_neg hother, Option.or_none]
  · by_cases hplace : place + 1 = (selections events).length
    · exact h.arrived hplace catalog
    · rw [h.superseded hroom hplace, h.shown]
      unfold shownAfter
      rw [selections_concat_deliver, outcome?_concat_deliver, if_neg hplace, Option.or_none]

end Follows

/-! ## All events -/

/-- The last of some events happens after the others. -/
theorem run_concat (b : Browser) (events : List Event) (e : Event) :
    b.run (events ++ [e]) = (b.run events).perform e := by
  induction events generalizing b with
  | nil => rfl
  | cons first events ih => exact ih (b.perform first)

/-- All events are followed, as long as there are numbers for the selections. -/
theorem run_follows (events : List Event) (hroom : (selections events).length < UInt64.size) :
    (start.run events).Follows events := by
  -- From the end: what is to be seen is said of the events so far, and the last one is added.
  induction events using List.reverseRecOn with
  | nil => exact .start
  | append_singleton events e ih =>
      rw [run_concat]
      cases e with
      | select dataSource =>
          rw [selections_concat_select, List.length_append] at hroom
          exact (ih (by omega)).select dataSource
      | deliver place catalog =>
          rw [selections_concat_deliver] at hroom
          exact (ih hroom).deliver hroom place catalog

/-- What no fetch is under way for stays to be seen until the next selection. -/
theorem shownAfter_append_of_loaded (hloaded : (shownAfter events).loading = false)
    {later : List Event} (hlater : ∀ e ∈ later, e.selected? = none) :
    shownAfter (events ++ later) = shownAfter events := by
  induction later generalizing events with
  | nil => rw [List.append_nil]
  | cons e later ih =>
      have hsame : shownAfter (events ++ [e]) = shownAfter events := by
        cases e with
        | select dataSource => cases hlater _ List.mem_cons_self
        | deliver place catalog =>
            cases hlast : (selections events).getLast? with
            | none =>
                unfold shownAfter
                rw [selections_concat_deliver, hlast]
            | some dataSource =>
                rw [shownAfter_of_getLast? hlast] at hloaded ⊢
                rw [shownAfter_of_getLast? (by rw [selections_concat_deliver, hlast]),
                  selections_concat_deliver, outcome?_concat_deliver]
                cases houtcome : outcome? events with
                | some outcome => rfl
                | none =>
                    rw [houtcome] at hloaded
                    cases hloaded
      have hrest : ∀ e ∈ later, e.selected? = none := by
        intro other hother
        exact hlater other (List.mem_cons_of_mem e hother)
      have hstill : (shownAfter (events ++ [e])).loading = false := hsame ▸ hloaded
      rw [List.append_cons, ih hstill hrest, hsame]

/-- A reader who waits is given what is to be seen in the end, if no fetch is under way then. -/
theorem Follows.awaited_eq (h : b.Follows events)
    (hroom : (selections events).length < UInt64.size) {later : List Event}
    (hlater : ∀ e ∈ later, e.selected? = none) :
    b.awaited later = (shownAfter (events ++ later)).loaded? := by
  induction later generalizing b events with
  | nil => rw [awaited, h.shown, List.append_nil]
  | cons e later ih =>
      cases hloading : (shownAfter events).loading with
      | false =>
          have hgiven : (shownAfter events).loaded? = some (shownAfter events) := by
            simp [Sidebar.loaded?, hloading]
          rw [awaited, h.shown, shownAfter_append_of_loaded hloading hlater, hgiven,
            Option.some_or]
      | true =>
          have hwaits : (shownAfter events).loaded? = none := by
            simp [Sidebar.loaded?, hloading]
          rw [awaited, h.shown, hwaits, Option.none_or, List.append_cons]
          cases e with
          | select dataSource => cases hlater _ List.mem_cons_self
          | deliver place catalog =>
              refine ih (h.deliver hroom place catalog) ?_ ?_
              · rw [selections_concat_deliver]
                exact hroom
              · intro other hother
                exact hlater other (List.mem_cons_of_mem _ hother)

/-- Events without a selection select nothing. -/
theorem selections_append_of_forall {later : List Event}
    (hlater : ∀ e ∈ later, e.selected? = none) :
    selections (events ++ later) = selections events := by
  have hnone : later.filterMap Event.selected? = [] := List.filterMap_eq_nil_iff.mpr hlater
  unfold selections
  rw [List.filterMap_append, hnone, List.append_nil]

/-- A reader who waits is given the state before any selection, or the outcome of the fetch of the
last one as soon as it arrives. -/
theorem Follows.awaited_outcome (h : b.Follows events)
    (hroom : (selections events).length < UInt64.size) {later : List Event}
    (hlater : ∀ e ∈ later, e.selected? = none) :
    (selections events = [] ∧ b.awaited later = some {}) ∨
    ∃ dataSource, (selections events).getLast? = some dataSource ∧
      b.awaited later = (outcome? (events ++ later)).map fun outcome =>
        .showing dataSource b.sidebar.generation (some outcome) := by
  have hsame : selections (events ++ later) = selections events :=
    selections_append_of_forall hlater
  rw [h.awaited_eq hroom hlater]
  cases hlast : (selections events).getLast? with
  | none =>
      left
      refine ⟨List.getLast?_eq_none_iff.mp hlast, ?_⟩
      unfold shownAfter
      rw [hsame, hlast]
      rfl
  | some dataSource =>
      right
      refine ⟨dataSource, rfl, ?_⟩
      rw [shownAfter_of_getLast? (hsame ▸ hlast), hsame, h.generation_eq]
      exact Sidebar.loaded?_showing _ _ _

/-- A stale answer is never shown. Whatever is selected, and in whatever order the fetches deliver:
the sidebar carries the number of the selections and the last data source. As long as the fetch of
the last selection has not delivered, it is loading and shows nothing; then it shows exactly what
that fetch has brought. Another fetch changes nothing, and a reader who waits is given the state
before any selection or the outcome of the selected data source. -/
theorem run_shows_last (events : List Event) (hroom : (selections events).length < UInt64.size) :
    let b := start.run events
    let s := b.sidebar
    s.generation.toNat = (selections events).length ∧
    s.dataSource = (selections events).getLast? ∧
    (selections events ≠ [] → outcome? events = none →
      s.loading = true ∧ s.tables = [] ∧ s.error = none) ∧
    (∀ tables, outcome? events = some (.ok tables) →
      s.loading = false ∧ s.tables = tables ∧ s.error = none) ∧
    (∀ e, outcome? events = some (.error e) →
      s.loading = false ∧ s.tables = [] ∧ s.error = some e.message) ∧
    (∀ place catalog, place + 1 ≠ (selections events).length →
      (b.perform (.deliver place catalog)).sidebar = s) ∧
    ∀ later, (∀ e ∈ later, e.selected? = none) →
      (selections events = [] ∧ b.awaited later = some {}) ∨
      ∃ dataSource, (selections events).getLast? = some dataSource ∧
        b.awaited later = (outcome? (events ++ later)).map fun outcome =>
          .showing dataSource s.generation (some outcome) := by
  intro b s
  have hfollows : b.Follows events := run_follows events hroom
  have hgeneration : s.generation = UInt64.ofNat (selections events).length :=
    hfollows.generation_eq
  have hshown : s = shownAfter events := hfollows.shown
  refine ⟨?_, ?_, ?_, ?_, ?_, ?_, ?_⟩
  · rw [hgeneration, UInt64.toNat_ofNat_of_lt' hroom]
  · rw [hshown, dataSource_shownAfter]
  · intro hne hnone
    obtain ⟨dataSource, hlast⟩ := Option.isSome_iff_exists.mp (List.getLast?_isSome.mpr hne)
    rw [hshown, shownAfter_of_getLast? hlast, hnone]
    exact ⟨rfl, rfl, rfl⟩
  · intro tables hok
    obtain ⟨dataSource, heq⟩ := shownAfter_of_outcome? hok
    rw [hshown, heq]
    exact ⟨rfl, rfl, rfl⟩
  · intro e herror
    obtain ⟨dataSource, heq⟩ := shownAfter_of_outcome? herror
    rw [hshown, heq]
    exact ⟨rfl, rfl, rfl⟩
  · intro place catalog hother
    exact hfollows.superseded hroom hother catalog
  · intro later hlater
    exact hfollows.awaited_outcome hroom hlater

/-- A data source is left and selected again. The fetches of the first two selections deliver late,
one of them tables of the same data source. -/
def reselected : List Event :=
  [.select "sales", .select "stock", .select "sales",
   .deliver 1 fun _ => .error (.requestFailed "timeout")]

/-- The answers that are still to come: an old one, then the one that counts. -/
def arrivals : List Event :=
  [.deliver 0 fun _ => .ok [⟨"old", []⟩], .deliver 2 fun _ => .ok [⟨"orders", []⟩]]

theorem run_shows_last_reselected :
    let b := start.run reselected
    let last := (start.run (reselected ++ arrivals)).sidebar
    (selections reselected).length < UInt64.size ∧
      b.sidebar.generation.toNat = 3 ∧
      (b.sidebar.loading = true ∧ b.sidebar.tables = [] ∧ b.sidebar.error = none) ∧
      (b.perform (.deliver 0 fun _ => .ok [⟨"old", []⟩])).sidebar = b.sidebar ∧
      b.awaited arrivals =
        some (.showing "sales" b.sidebar.generation (some (.ok [⟨"orders", []⟩]))) ∧
      last.loading = false ∧ last.tables = [⟨"orders", []⟩] ∧ last.error = none := by
  intro b last
  have hroom : (selections reselected).length < UInt64.size := by decide
  have hnone : outcome? reselected = none := rfl
  have hok : outcome? (reselected ++ arrivals) = some (.ok [⟨"orders", []⟩]) := rfl
  obtain ⟨hgeneration, -, hloading, -, -, hother, hawaited⟩ := run_shows_last reselected hroom
  obtain ⟨-, -, -, hshown, -, -, -⟩ := run_shows_last (reselected ++ arrivals) hroom
  refine ⟨hroom, hgeneration, hloading (by simp [reselected, selections, Event.selected?]) hnone,
    hother 0 _ (by decide), ?_, hshown _ hok⟩
  rcases hawaited arrivals (by simp [arrivals, Event.selected?]) with ⟨hnil, -⟩ | ⟨_, hlast, heq⟩
  · cases hnil
  · cases hlast
    rw [heq, hok]
    rfl

end Browser

end QueryCanvas
