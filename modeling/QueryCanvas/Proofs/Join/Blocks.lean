import Mathlib.Data.List.FinRange
import QueryCanvas.Proofs.Join.Exactness

/-!
# The blocks of an inference

Whether a connection is dropped, and what it contributes otherwise, depends on the nodes and on the
connection alone. `Inference.Blocks` says so of a whole inference: its entries are one block for
each connection, in their order, and then bare entries. The block of a dropped connection is empty,
and any other block is a mirrored pair. The bare entries depend on no more than which names the
blocks carry (`bareLabels_congr`).
-/

namespace QueryCanvas

variable {nodes : List Node}

namespace Connection

variable {c : Connection} {e : Edge} {reason : DropReason}

/-- The entries that a connection contributes. -/
def block (nodes : List Node) (c : Connection) : List ReferenceEntry :=
  match c.edge nodes with
  | .ok e => e.entries
  | .error _ => []

/-- Why a connection is dropped, if it is. -/
def fault? (nodes : List Node) (c : Connection) : Option DropReason :=
  match c.edge nodes with
  | .ok _ => none
  | .error reason => some reason

theorem Joins.block_eq (h : c.Joins nodes e) : c.block nodes = [e.forward, e.backward] := by
  rw [block, h.edge_eq]
  rfl

theorem Joins.fault?_eq (h : c.Joins nodes e) : c.fault? nodes = none := by
  rw [fault?, h.edge_eq]

theorem Fails.block_eq (h : c.Fails nodes reason) : c.block nodes = [] := by
  rw [block, h.edge_eq]

theorem Fails.fault?_eq (h : c.Fails nodes reason) : c.fault? nodes = some reason := by
  rw [fault?, h.edge_eq]

/-- A connection that is not dropped has an edge. -/
theorem fault?_eq_none_iff : c.fault? nodes = none ↔ ∃ e, c.Joins nodes e := by
  constructor
  · intro hnone
    rcases c.joins_or_fails nodes with hjoins | ⟨reason, hfails⟩
    · exact hjoins
    · rw [hfails.fault?_eq] at hnone
      cases hnone
  · rintro ⟨e, hjoins⟩
    exact hjoins.fault?_eq

/-- A connection that is dropped contributes nothing. -/
theorem block_eq_nil_of_fault? (hfault : c.fault? nodes ≠ none) : c.block nodes = [] := by
  rcases c.joins_or_fails nodes with ⟨e, hjoins⟩ | ⟨reason, hfails⟩
  · exact absurd hjoins.fault?_eq hfault
  · exact hfails.block_eq

end Connection

/-! ## All connections -/

/-- The pairs of the edges are the blocks of the connections. -/
theorem flatMap_block (nodes : List Node) (connections : List Connection) :
    (edges nodes connections).flatMap Edge.entries =
      connections.flatMap (Connection.block nodes) := by
  induction connections with
  | nil => rfl
  | cons c connections ih =>
      rw [List.flatMap_cons, ← ih]
      rcases c.joins_or_fails nodes with ⟨e, hjoins⟩ | ⟨reason, hfails⟩
      · rw [edges_cons_ok hjoins.edge_eq, hjoins.block_eq]
        rfl
      · rw [edges_cons_error hfails.edge_eq, hfails.block_eq]
        rfl

/-- Connections at places are dropped for their own faults, in the order of the places. -/
theorem droppedFrom_ofFn (nodes : List Node) (start : Nat) {n : Nat}
    (connections : Fin n → Connection) :
    droppedFrom nodes start (List.ofFn connections) =
      (List.finRange n).filterMap fun i =>
        ((connections i).fault? nodes).map fun reason => ⟨start + i, connections i, reason⟩ := by
  induction n generalizing start with
  | zero => rfl
  | succ n ih =>
      have hrest : (List.map Fin.succ (List.finRange n)).filterMap (fun i =>
            ((connections i).fault? nodes).map fun reason =>
              (⟨start + i, connections i, reason⟩ : Dropped)) =
          droppedFrom nodes (start + 1) (List.ofFn fun i => connections i.succ) := by
        rw [ih, List.filterMap_map]
        refine List.filterMap_congr ?_
        intro i _
        simp only [Function.comp_apply, Fin.val_succ, Nat.add_assoc, Nat.add_comm 1]
      rw [List.ofFn_succ, List.finRange_succ]
      rcases (connections 0).joins_or_fails nodes with ⟨e, hjoins⟩ | ⟨reason, hfails⟩
      · rw [droppedFrom_cons_ok hjoins.edge_eq,
          List.filterMap_cons_none (by rw [hjoins.fault?_eq]; rfl), hrest]
      · rw [droppedFrom_cons_error hfails.edge_eq,
          List.filterMap_cons_some (by rw [hfails.fault?_eq]; rfl), hrest]
        rfl

/-- What an inference reports of the connection at a place, if it drops it. -/
def Inference.report? (inference : Inference) (place : Nat) : Option Dropped :=
  inference.dropped.find? (·.index == place)

/-- Connections from some place on are dropped under that place or a later one. -/
theorem le_index_of_mem_droppedFrom {start : Nat} {connections : List Connection} {d : Dropped}
    (hd : d ∈ droppedFrom nodes start connections) : start ≤ d.index := by
  induction connections generalizing start with
  | nil => cases hd
  | cons c connections ih =>
      rcases c.joins_or_fails nodes with ⟨e, hjoins⟩ | ⟨reason, hfails⟩
      · rw [droppedFrom_cons_ok hjoins.edge_eq] at hd
        exact Nat.le_of_succ_le (ih hd)
      · rw [droppedFrom_cons_error hfails.edge_eq] at hd
        rcases List.mem_cons.mp hd with rfl | hd
        · exact Nat.le_refl start
        · exact Nat.le_of_succ_le (ih hd)

/-- The report on a connection is its own fault, under its place. -/
theorem find?_droppedFrom (nodes : List Node) (start : Nat) {n : Nat}
    (connections : Fin n → Connection) (i : Fin n) :
    (droppedFrom nodes start (List.ofFn connections)).find? (·.index == start + i) =
      ((connections i).fault? nodes).map fun reason => ⟨start + i, connections i, reason⟩ := by
  induction n generalizing start with
  | zero => exact i.elim0
  | succ n ih =>
      rw [List.ofFn_succ]
      cases i using Fin.cases with
      | zero =>
          have hlater : ∀ d ∈ droppedFrom nodes (start + 1) (List.ofFn fun i => connections i.succ),
              ¬ (d.index == start) = true := by
            intro d hd
            have hle := le_index_of_mem_droppedFrom hd
            rw [beq_iff_eq]
            omega
          rcases (connections 0).joins_or_fails nodes with ⟨e, hjoins⟩ | ⟨reason, hfails⟩
          · rw [droppedFrom_cons_ok hjoins.edge_eq, hjoins.fault?_eq]
            exact List.find?_eq_none.mpr hlater
          · rw [droppedFrom_cons_error hfails.edge_eq, hfails.fault?_eq]
            exact List.find?_cons_of_pos (beq_self_eq_true start)
      | succ j =>
          have hplace : start + j.succ.val = start + 1 + j := by
            rw [Fin.val_succ]
            omega
          rw [hplace, ← ih (start + 1) (fun i => connections i.succ) j]
          rcases (connections 0).joins_or_fails nodes with ⟨e, hjoins⟩ | ⟨reason, hfails⟩
          · rw [droppedFrom_cons_ok hjoins.edge_eq]
          · rw [droppedFrom_cons_error hfails.edge_eq]
            refine List.find?_cons_of_neg ?_
            rw [beq_iff_eq]
            show start ≠ start + 1 + j
            omega

section Places

variable (nodes : List Node) {n : Nat} (connections : Fin n → Connection)

theorem report?_inferJoins (i : Fin n) :
    (inferJoins nodes (List.ofFn connections)).report? i =
      ((connections i).fault? nodes).map fun reason => ⟨i, connections i, reason⟩ := by
  have hfind := find?_droppedFrom nodes 0 connections i
  rw [Nat.zero_add] at hfind
  exact hfind

/-- The dropped connections are those that are reported, in the order of their places. -/
theorem dropped_inferJoins :
    (inferJoins nodes (List.ofFn connections)).dropped =
      (List.finRange n).filterMap fun i : Fin n =>
        (inferJoins nodes (List.ofFn connections)).report? i := by
  refine (droppedFrom_ofFn nodes 0 connections).trans (List.filterMap_congr ?_)
  intro i _
  rw [report?_inferJoins, Nat.zero_add]

/-- Connections that have faults at the same places are dropped at the same places. -/
theorem map_index_dropped_congr {nodes : List Node} {first second : Fin n → Connection}
    (hsame : ∀ i, (first i).fault? nodes = none ↔ (second i).fault? nodes = none) :
    (inferJoins nodes (List.ofFn first)).dropped.map (·.index) =
      (inferJoins nodes (List.ofFn second)).dropped.map (·.index) := by
  rw [dropped_inferJoins, dropped_inferJoins, List.map_filterMap, List.map_filterMap]
  refine List.filterMap_congr ?_
  intro i _
  rw [report?_inferJoins, report?_inferJoins, Option.map_map, Option.map_map]
  -- Both maps send a fault to its place, whatever the reason.
  cases hsecond : (second i).fault? nodes with
  | none =>
      rw [(hsame i).mpr hsecond]
      rfl
  | some reason =>
      have hne : (first i).fault? nodes ≠ none := by
        rw [Ne, hsame, hsecond]
        exact Option.some_ne_none reason
      obtain ⟨other, hfirst⟩ := Option.ne_none_iff_exists'.mp hne
      rw [hfirst]
      rfl

end Places

/-- The entries of the inference are a block for each of `n` connections, in their order, and then
bare entries. The block of a dropped connection is empty, and that of any other is a mirrored
pair. -/
structure Inference.Blocks (inference : Inference) {n : Nat} (block : Fin n → List ReferenceEntry)
    (bare : List String) : Prop where
  entries : inference.entries = (List.ofFn block).flatten ++ bare.map .bare
  dropped : ∀ i : Fin n, inference.report? i ≠ none → block i = []
  joined : ∀ i : Fin n, inference.report? i = none → ∃ e : Edge, block i = [e.forward, e.backward]

/-- An inference consists of the blocks that its connections have on their own. -/
theorem blocks_inferJoins (nodes : List Node) {n : Nat} (connections : Fin n → Connection) :
    (inferJoins nodes (List.ofFn connections)).Blocks
      (fun i => (connections i).block nodes) (bareLabels nodes (List.ofFn connections)) where
  entries := by
    rw [entries_inferJoins, flatMap_block, List.flatMap_def, List.map_ofFn]
    rfl
  dropped := by
    intro i hreport
    rw [report?_inferJoins, Ne, Option.map_eq_none_iff] at hreport
    exact Connection.block_eq_nil_of_fault? hreport
  joined := by
    intro i hreport
    rw [report?_inferJoins, Option.map_eq_none_iff] at hreport
    obtain ⟨e, hjoins⟩ := Connection.fault?_eq_none_iff.mp hreport
    exact ⟨e, hjoins.block_eq⟩

/-- Connections whose blocks have the same entries leave the same labels bare. -/
theorem bareLabels_congr {first second : List Connection}
    (hsame : ∀ entry, entry ∈ first.flatMap (Connection.block nodes) ↔
      entry ∈ second.flatMap (Connection.block nodes)) :
    bareLabels nodes first = bareLabels nodes second := by
  rw [bareLabels, bareLabels, flatMap_block, flatMap_block]
  refine uncovered_congr ?_ _
  intro label
  simp only [List.mem_map, hsame]

end QueryCanvas
