import Mathlib.Data.List.FinRange
import Mathlib.Logic.Equiv.Defs
import QueryCanvas.Proofs.Join.Blocks

/-!
# The order of the connections

A dropped connection leaves no trace in the entries: without it, inference finds the same entries
and drops nothing (`inferJoins_usable`). Connections in another order give the same blocks in that
order and the same bare entries. `inferJoins_reordered` says both, and which connections are dropped
in the other order.
-/

namespace QueryCanvas

variable {connections : List Connection}

/-- The connections that are not dropped. -/
def usable (nodes : List Node) (connections : List Connection) : List Connection :=
  connections.filter fun c => (c.fault? nodes).isNone

/-- The edges are those of the connections that are not dropped. -/
theorem edges_usable (nodes : List Node) (connections : List Connection) :
    edges nodes (usable nodes connections) = edges nodes connections := by
  induction connections with
  | nil => rfl
  | cons c connections ih =>
      rcases c.joins_or_fails nodes with ⟨e, hjoins⟩ | ⟨reason, hfails⟩
      · have hkept : usable nodes (c :: connections) = c :: usable nodes connections :=
          List.filter_cons_of_pos (by rw [hjoins.fault?_eq]; rfl)
        rw [hkept, edges_cons_ok hjoins.edge_eq, edges_cons_ok hjoins.edge_eq, ih]
      · have hleft : usable nodes (c :: connections) = usable nodes connections :=
          List.filter_cons_of_neg (by rw [hfails.fault?_eq]; exact Bool.false_ne_true)
        rw [hleft, edges_cons_error hfails.edge_eq, ih]

/-- Connections that all have an edge are not dropped. -/
theorem droppedFrom_eq_nil {nodes : List Node} (hjoin : ∀ c ∈ connections, ∃ e, c.Joins nodes e)
    (start : Nat) : droppedFrom nodes start connections = [] := by
  induction connections generalizing start with
  | nil => rfl
  | cons c connections ih =>
      obtain ⟨e, hjoins⟩ := hjoin c List.mem_cons_self
      rw [droppedFrom_cons_ok hjoins.edge_eq]
      exact ih (fun d hd => hjoin d (List.mem_cons_of_mem c hd)) (start + 1)

/-- Without the dropped connections, the entries are the same and nothing is dropped. -/
theorem inferJoins_usable (nodes : List Node) (connections : List Connection) :
    inferJoins nodes (usable nodes connections) =
      ⟨(inferJoins nodes connections).entries, []⟩ := by
  have hjoin : ∀ c ∈ usable nodes connections, ∃ e, c.Joins nodes e := by
    intro c hc
    have hnone := (List.mem_filter.mp hc).2
    exact Connection.fault?_eq_none_iff.mp (Option.isNone_iff_eq_none.mp hnone)
  simp only [inferJoins, edges_usable, droppedFrom_eq_nil hjoin]

/-- The connections that are not dropped are those at the places without a report. -/
theorem map_get_unreported (nodes : List Node) (connections : List Connection) :
    ((List.finRange connections.length).filter fun i : Fin connections.length =>
        ((inferJoins nodes connections).report? i).isNone).map connections.get =
      usable nodes connections := by
  have hreport : ∀ i : Fin connections.length,
      ((inferJoins nodes connections).report? i).isNone =
        ((connections.get i).fault? nodes).isNone := by
    intro i
    have hreport := report?_inferJoins nodes connections.get i
    rw [List.ofFn_get] at hreport
    rw [hreport, Option.isNone_map]
  calc
    _ = ((List.finRange connections.length).filter
          ((fun c => (c.fault? nodes).isNone) ∘ connections.get)).map connections.get := by
      simp only [hreport]
      rfl
    _ = usable nodes ((List.finRange connections.length).map connections.get) :=
      List.filter_map.symm
    _ = usable nodes connections := by
      rw [List.map_get_finRange]

/-- The bare labels do not depend on the order of the connections. -/
theorem bareLabels_perm (nodes : List Node) {first second : List Connection}
    (horder : first.Perm second) : bareLabels nodes first = bareLabels nodes second := by
  refine bareLabels_congr ?_
  intro entry
  exact (horder.flatMap_right _).mem_iff

/-- Dropped connections leave no trace, and the order of the others is that of their pairs. Running
inference on the connections that are not dropped gives the same entries and drops nothing. Running
it on all connections in another order gives the same blocks in that order and the same bare
entries, and drops the same connections for the same reasons, at the places that they have then. -/
theorem inferJoins_reordered (nodes : List Node) (connections : List Connection)
    (order : Equiv.Perm (Fin connections.length)) :
    let places := List.finRange connections.length
    let result := inferJoins nodes connections
    let kept := places.filter fun place : Fin connections.length => (result.report? place).isNone
    let reordered := inferJoins nodes (List.ofFn fun place => connections.get (order place))
    inferJoins nodes (kept.map connections.get) = ⟨result.entries, []⟩ ∧
    (∃ block bare, result.Blocks block bare ∧
      reordered.Blocks (fun place => block (order place)) bare) ∧
    reordered.dropped = places.filterMap fun place =>
      (result.report? (order place)).map fun d => { d with index := place } := by
  intro places result kept reordered
  have hresult : result = inferJoins nodes (List.ofFn connections.get) := by
    rw [List.ofFn_get]
  refine ⟨?_, ?_, ?_⟩
  · rw [map_get_unreported]
    exact inferJoins_usable nodes connections
  · have hbare : bareLabels nodes (List.ofFn fun place => connections.get (order place)) =
        bareLabels nodes (List.ofFn connections.get) :=
      bareLabels_perm nodes (Equiv.Perm.ofFn_comp_perm order connections.get)
    have hblocks := blocks_inferJoins nodes fun place => connections.get (order place)
    rw [hbare] at hblocks
    rw [hresult]
    exact ⟨_, _, blocks_inferJoins nodes connections.get, hblocks⟩
  · refine (dropped_inferJoins nodes _).trans ?_
    rw [hresult]
    refine List.filterMap_congr ?_
    intro place _
    rw [report?_inferJoins, report?_inferJoins, Option.map_map]
    rfl

end QueryCanvas
