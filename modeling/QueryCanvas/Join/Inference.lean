import QueryCanvas.Canvas.Basic
import QueryCanvas.Join.Entry

/-!
# Join inference

A connection joins its two tables in both directions, so it contributes a pair of mirrored entries.
A connection whose ends cannot be resolved contributes nothing and is reported. Each table that no
join mentions by name gets one bare entry, after all joins.
-/

namespace QueryCanvas

/-- Why a connection contributes no join. -/
inductive DropReason where
  | unknownNode (node : NodeId)
  | malformedHandle (handle : String)
deriving DecidableEq, Repr

/-- The text of a reason. -/
def DropReason.message : DropReason → String
  | .unknownNode node => "unknown node " ++ nodeText node
  | .malformedHandle handle => "malformed handle '" ++ handle ++ "'"

/-- A connection without a join, with its place among all connections. -/
structure Dropped where
  index : Nat
  connection : Connection
  reason : DropReason
deriving DecidableEq, Repr

/-- The entries for a diagram and the connections that contributed none. -/
structure Inference where
  entries : List ReferenceEntry
  dropped : List Dropped
deriving DecidableEq, Repr

/-- The two ends of a join, each a table and a column. -/
structure Edge where
  sourceTable : String
  sourceField : String
  targetTable : String
  targetField : String
deriving DecidableEq, Repr

namespace Edge

/-- The entry of the source table. -/
def forward (e : Edge) : ReferenceEntry :=
  .joined e.sourceTable ⟨e.targetTable, e.sourceField, e.targetField⟩

/-- The entry of the target table. -/
def backward (e : Edge) : ReferenceEntry :=
  .joined e.targetTable ⟨e.sourceTable, e.targetField, e.sourceField⟩

/-- The edge from the target to the source. -/
def reverse (e : Edge) : Edge :=
  ⟨e.targetTable, e.targetField, e.sourceTable, e.sourceField⟩

/-- Both entries. -/
def entries (e : Edge) : List ReferenceEntry :=
  [e.forward, e.backward]

end Edge

/-- The label of the first node with the id. -/
def labelOf (nodes : List Node) (id : NodeId) : Except DropReason String :=
  match findNode? nodes id with
  | some node => .ok node.label
  | none => .error (.unknownNode id)

/-- The field that a handle of a node names. -/
def fieldOf (node : NodeId) (handle : String) : Except DropReason String :=
  match fieldOf? node handle with
  | some field => .ok field
  | none => .error (.malformedHandle handle)

/-- The edge of a connection. The nodes are checked before the handles, the source before the
target. -/
def Connection.edge (nodes : List Node) (c : Connection) : Except DropReason Edge := do
  let sourceTable ← labelOf nodes c.source
  let targetTable ← labelOf nodes c.target
  let sourceField ← fieldOf c.source c.sourceHandle
  let targetField ← fieldOf c.target c.targetHandle
  return ⟨sourceTable, sourceField, targetTable, targetField⟩

/-- The edges of the connections that have one. -/
def edges (nodes : List Node) (connections : List Connection) : List Edge :=
  connections.filterMap fun c => (c.edge nodes).toOption

/-- The connections without an edge, numbered from `start`. -/
def droppedFrom (nodes : List Node) : Nat → List Connection → List Dropped
  | _, [] => []
  | start, c :: rest =>
      match c.edge nodes with
      | .ok _ => droppedFrom nodes (start + 1) rest
      | .error reason => ⟨start, c, reason⟩ :: droppedFrom nodes (start + 1) rest

/-- The labels that are not among the names taken so far, each once. -/
def uncovered (taken : List String) : List String → List String
  | [] => []
  | label :: labels =>
      if label ∈ taken then uncovered taken labels
      else label :: uncovered (label :: taken) labels

/-- Infer the reference tables of a diagram. -/
def inferJoins (nodes : List Node) (connections : List Connection) : Inference :=
  let joined := (edges nodes connections).flatMap Edge.entries
  let bare := (uncovered (joined.map (·.name)) (nodes.map Node.label)).map ReferenceEntry.bare
  ⟨joined ++ bare, droppedFrom nodes 0 connections⟩

end QueryCanvas
