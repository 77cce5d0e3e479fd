import Mathlib.Data.List.Basic
import QueryCanvas.Join.Inference

/-!
# The split of the connections

What inference does with each connection, stated by its checks: `Connection.Joins` says that a
connection passes all of them, `Connection.Fails` names the first one that it fails, and `Splits`
deals the connections out to the two sides in order. `splits_iff` says that inference computes
exactly this split.
-/

namespace QueryCanvas

variable {nodes : List Node} {connections : List Connection} {c : Connection}

/-! ## One connection -/

/-- The connection passes all checks, and its ends are those of the edge: each label is that of the
first node with the number, and each handle names the column. -/
structure Connection.Joins (nodes : List Node) (c : Connection) (e : Edge) : Prop where
  source : ∃ node, findNode? nodes c.source = some node ∧ node.label = e.sourceTable
  target : ∃ node, findNode? nodes c.target = some node ∧ node.label = e.targetTable
  sourceField : fieldOf? c.source c.sourceHandle = some e.sourceField
  targetField : fieldOf? c.target c.targetHandle = some e.targetField

/-- The reason is that of the first check that the connection fails: the source node is known, the
target node is known, the source handle names a field, the target handle names a field. -/
inductive Connection.Fails (nodes : List Node) (c : Connection) : DropReason → Prop where
  | source :
      findNode? nodes c.source = none → c.Fails nodes (.unknownNode c.source)
  | target :
      findNode? nodes c.source ≠ none → findNode? nodes c.target = none →
      c.Fails nodes (.unknownNode c.target)
  | sourceHandle :
      findNode? nodes c.source ≠ none → findNode? nodes c.target ≠ none →
      fieldOf? c.source c.sourceHandle = none → c.Fails nodes (.malformedHandle c.sourceHandle)
  | targetHandle :
      findNode? nodes c.source ≠ none → findNode? nodes c.target ≠ none →
      fieldOf? c.source c.sourceHandle ≠ none → fieldOf? c.target c.targetHandle = none →
      c.Fails nodes (.malformedHandle c.targetHandle)

theorem labelOf_of_some {id : NodeId} {node : Node} (hnode : findNode? nodes id = some node) :
    labelOf nodes id = .ok node.label := by
  simp [labelOf, hnode]

theorem labelOf_of_none {id : NodeId} (hnode : findNode? nodes id = none) :
    labelOf nodes id = .error (.unknownNode id) := by
  simp [labelOf, hnode]

theorem fieldOf_of_some {node : NodeId} {handle field : String}
    (hfield : fieldOf? node handle = some field) : fieldOf node handle = .ok field := by
  simp [fieldOf, hfield]

theorem fieldOf_of_none {node : NodeId} {handle : String} (hfield : fieldOf? node handle = none) :
    fieldOf node handle = .error (.malformedHandle handle) := by
  simp [fieldOf, hfield]

/-- A connection that passes all checks has the edge of its ends. -/
theorem Connection.Joins.edge_eq {e : Edge} (h : c.Joins nodes e) : c.edge nodes = .ok e := by
  obtain ⟨source, hsource, hsourceLabel⟩ := h.source
  obtain ⟨target, htarget, htargetLabel⟩ := h.target
  rw [Connection.edge, labelOf_of_some hsource, labelOf_of_some htarget,
    fieldOf_of_some h.sourceField, fieldOf_of_some h.targetField, hsourceLabel, htargetLabel]
  rfl

/-- A connection that fails a check has no edge, for the reason of that check. -/
theorem Connection.Fails.edge_eq {reason : DropReason} (h : c.Fails nodes reason) :
    c.edge nodes = .error reason := by
  cases h with
  | source hsource =>
      rw [Connection.edge, labelOf_of_none hsource]
      rfl
  | target hsource htarget =>
      obtain ⟨source, hsource⟩ := Option.ne_none_iff_exists'.mp hsource
      rw [Connection.edge, labelOf_of_some hsource, labelOf_of_none htarget]
      rfl
  | sourceHandle hsource htarget hfield =>
      obtain ⟨source, hsource⟩ := Option.ne_none_iff_exists'.mp hsource
      obtain ⟨target, htarget⟩ := Option.ne_none_iff_exists'.mp htarget
      rw [Connection.edge, labelOf_of_some hsource, labelOf_of_some htarget,
        fieldOf_of_none hfield]
      rfl
  | targetHandle hsource htarget hsourceField hfield =>
      obtain ⟨source, hsource⟩ := Option.ne_none_iff_exists'.mp hsource
      obtain ⟨target, htarget⟩ := Option.ne_none_iff_exists'.mp htarget
      obtain ⟨field, hsourceField⟩ := Option.ne_none_iff_exists'.mp hsourceField
      rw [Connection.edge, labelOf_of_some hsource, labelOf_of_some htarget,
        fieldOf_of_some hsourceField, fieldOf_of_none hfield]
      rfl

/-- A connection passes all checks, or there is a first one that it fails. -/
theorem Connection.joins_or_fails (nodes : List Node) (c : Connection) :
    (∃ e, c.Joins nodes e) ∨ ∃ reason, c.Fails nodes reason := by
  cases hsource : findNode? nodes c.source with
  | none => exact .inr ⟨_, .source hsource⟩
  | some source =>
      have hsome : findNode? nodes c.source ≠ none := by simp [hsource]
      cases htarget : findNode? nodes c.target with
      | none => exact .inr ⟨_, .target hsome htarget⟩
      | some target =>
          have htsome : findNode? nodes c.target ≠ none := by simp [htarget]
          cases hsourceField : fieldOf? c.source c.sourceHandle with
          | none => exact .inr ⟨_, .sourceHandle hsome htsome hsourceField⟩
          | some sourceField =>
              have hfsome : fieldOf? c.source c.sourceHandle ≠ none := by simp [hsourceField]
              cases htargetField : fieldOf? c.target c.targetHandle with
              | none => exact .inr ⟨_, .targetHandle hsome htsome hfsome htargetField⟩
              | some targetField =>
                  exact .inl ⟨⟨source.label, sourceField, target.label, targetField⟩,
                    ⟨source, hsource, rfl⟩, ⟨target, htarget, rfl⟩, hsourceField, htargetField⟩

/-- A connection has an edge exactly if it passes all checks with the ends of the edge. -/
theorem edge_eq_ok_iff {e : Edge} : c.edge nodes = .ok e ↔ c.Joins nodes e := by
  constructor
  · intro hedge
    -- The other cases give the connection another result.
    rcases c.joins_or_fails nodes with ⟨other, hjoins⟩ | ⟨reason, hfails⟩
    · rw [hjoins.edge_eq] at hedge
      cases hedge
      exact hjoins
    · rw [hfails.edge_eq] at hedge
      cases hedge
  · exact Connection.Joins.edge_eq

/-- A connection has no edge exactly if it fails a check, and the reason is that of the first. -/
theorem edge_eq_error_iff {reason : DropReason} :
    c.edge nodes = .error reason ↔ c.Fails nodes reason := by
  constructor
  · intro hedge
    rcases c.joins_or_fails nodes with ⟨e, hjoins⟩ | ⟨other, hfails⟩
    · rw [hjoins.edge_eq] at hedge
      cases hedge
    · rw [hfails.edge_eq] at hedge
      cases hedge
      exact hfails
  · exact Connection.Fails.edge_eq

/-! ## All connections -/

/-- Each connection in turn goes to exactly one side: it gives the next edge, or it is dropped under
its place, counted from `start`, with the first check that it fails. -/
inductive Splits (nodes : List Node) :
    Nat → List Connection → List Edge → List Dropped → Prop where
  | nil (start) : Splits nodes start [] [] []
  | joined {start c connections e joined dropped} :
      c.Joins nodes e → Splits nodes (start + 1) connections joined dropped →
      Splits nodes start (c :: connections) (e :: joined) dropped
  | dropped {start c connections reason joined dropped} :
      c.Fails nodes reason → Splits nodes (start + 1) connections joined dropped →
      Splits nodes start (c :: connections) joined (⟨start, c, reason⟩ :: dropped)

theorem edges_cons_ok {e : Edge} (hedge : c.edge nodes = .ok e) (connections : List Connection) :
    edges nodes (c :: connections) = e :: edges nodes connections := by
  simp [edges, hedge, Except.toOption]

theorem edges_cons_error {reason : DropReason} (hedge : c.edge nodes = .error reason)
    (connections : List Connection) : edges nodes (c :: connections) = edges nodes connections := by
  simp [edges, hedge, Except.toOption]

theorem droppedFrom_cons_ok {e : Edge} (hedge : c.edge nodes = .ok e) (start : Nat)
    (connections : List Connection) :
    droppedFrom nodes start (c :: connections) = droppedFrom nodes (start + 1) connections := by
  rw [droppedFrom, hedge]

theorem droppedFrom_cons_error {reason : DropReason} (hedge : c.edge nodes = .error reason)
    (start : Nat) (connections : List Connection) :
    droppedFrom nodes start (c :: connections) =
      ⟨start, c, reason⟩ :: droppedFrom nodes (start + 1) connections := by
  rw [droppedFrom, hedge]

/-- Inference splits the connections. -/
theorem splits_edges_droppedFrom (nodes : List Node) (start : Nat)
    (connections : List Connection) :
    Splits nodes start connections (edges nodes connections)
      (droppedFrom nodes start connections) := by
  induction connections generalizing start with
  | nil => exact .nil start
  | cons c connections ih =>
      cases hedge : c.edge nodes with
      | ok e =>
          rw [edges_cons_ok hedge, droppedFrom_cons_ok hedge]
          exact .joined (edge_eq_ok_iff.mp hedge) (ih (start + 1))
      | error reason =>
          rw [edges_cons_error hedge, droppedFrom_cons_error hedge]
          exact .dropped (edge_eq_error_iff.mp hedge) (ih (start + 1))

/-- There is only one way to split connections. -/
theorem Splits.eq {start : Nat} {joined : List Edge} {dropped : List Dropped}
    (h : Splits nodes start connections joined dropped) :
    joined = edges nodes connections ∧ dropped = droppedFrom nodes start connections := by
  induction h with
  | nil => exact ⟨rfl, rfl⟩
  | joined hjoins _ ih =>
      rw [edges_cons_ok hjoins.edge_eq, droppedFrom_cons_ok hjoins.edge_eq, ih.1, ih.2]
      exact ⟨rfl, rfl⟩
  | dropped hfails _ ih =>
      rw [edges_cons_error hfails.edge_eq, droppedFrom_cons_error hfails.edge_eq, ih.1, ih.2]
      exact ⟨rfl, rfl⟩

/-- The split is what inference computes. -/
theorem splits_iff {start : Nat} {joined : List Edge} {dropped : List Dropped} :
    Splits nodes start connections joined dropped ↔
      joined = edges nodes connections ∧ dropped = droppedFrom nodes start connections := by
  constructor
  · exact Splits.eq
  · rintro ⟨rfl, rfl⟩
    exact splits_edges_droppedFrom nodes start connections

/-- The tables of an edge are labels of nodes. -/
theorem Connection.Joins.labels {e : Edge} (h : c.Joins nodes e) :
    e.sourceTable ∈ nodes.map Node.label ∧ e.targetTable ∈ nodes.map Node.label := by
  obtain ⟨source, hsource, hsourceLabel⟩ := h.source
  obtain ⟨target, htarget, htargetLabel⟩ := h.target
  exact ⟨List.mem_map.mpr ⟨source, List.mem_of_find?_eq_some hsource, hsourceLabel⟩,
    List.mem_map.mpr ⟨target, List.mem_of_find?_eq_some htarget, htargetLabel⟩⟩

/-- Every edge is that of a connection that passes all checks. -/
theorem joins_of_mem_edges {e : Edge} (he : e ∈ edges nodes connections) :
    ∃ c ∈ connections, c.Joins nodes e := by
  obtain ⟨c, hc, hedge⟩ := List.mem_filterMap.mp he
  refine ⟨c, hc, edge_eq_ok_iff.mp ?_⟩
  cases hresult : c.edge nodes with
  | error reason =>
      rw [hresult] at hedge
      cases hedge
  | ok other =>
      rw [hresult] at hedge
      cases hedge
      rfl

end QueryCanvas
