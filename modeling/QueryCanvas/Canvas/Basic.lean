import QueryCanvas.Canvas.Handle
import QueryCanvas.Canvas.Layout
import QueryCanvas.Table.Basic

/-!
# The canvas

A canvas holds the tables placed on it as nodes, and the connections drawn between their fields.
Both only grow. Nodes are numbered in the order in which they were added. `connect` checks both
handles before it draws a connection; `insertConnection` keeps the handles as they are given and
checks the nodes only.
-/

namespace QueryCanvas

/-- A table placed on the canvas. -/
structure Node where
  id : NodeId
  table : Table
  position : Position
deriving Repr

/-- The label of a node is the name of its table. -/
def Node.label (n : Node) : String :=
  n.table.name

/-- A directed connection between handles of two nodes. -/
structure Connection where
  source : NodeId
  sourceHandle : String
  target : NodeId
  targetHandle : String
deriving DecidableEq, Repr

/-- Why a connection was refused. -/
inductive ConnectError where
  | malformedHandle (handle : String)
  | unknownNode (node : NodeId)
  | unknownField (node : NodeId) (field : String)
deriving DecidableEq, Repr

/-- The text of a refusal. -/
def ConnectError.message : ConnectError → String
  | .malformedHandle handle => "malformed connection handle: " ++ handle
  | .unknownNode node => "node " ++ nodeText node ++ " is not on the canvas"
  | .unknownField node field => "node " ++ nodeText node ++ " has no field '" ++ field ++ "'"

/-- The nodes and connections, and the number and layout for the nodes to come. -/
structure Canvas where
  nodes : List Node
  connections : List Connection
  nextId : NodeId
  layout : GridLayout

/-- The first node with the id. -/
def findNode? (nodes : List Node) (id : NodeId) : Option Node :=
  nodes.find? (·.id == id)

namespace Canvas

/-- The canvas without nodes. -/
def empty (layout : GridLayout) : Canvas :=
  ⟨[], [], 0, layout⟩

/-- Place a table on the canvas. -/
def addTable (c : Canvas) (table : Table) : NodeId × Canvas :=
  (c.nextId,
    { c with
      nodes := c.nodes ++ [⟨c.nextId, table, c.layout.positionFor c.nextId⟩]
      nextId := c.nextId + 1 })

/-- The node with the id. -/
def node? (c : Canvas) (id : NodeId) : Option Node :=
  findNode? c.nodes id

/-- The names of the tables of all nodes. -/
def tableNames (c : Canvas) : List String :=
  c.nodes.map Node.label

/-- Nothing was placed on the canvas. -/
def isEmpty (c : Canvas) : Bool :=
  c.nodes.isEmpty

/-- The handle that a text names, if it is in canonical form and its field is on the canvas. -/
def resolve (c : Canvas) (text : String) : Except ConnectError Handle :=
  match Handle.parse? text with
  | none => .error (.malformedHandle text)
  | some handle =>
      if handle.encode ≠ text then .error (.malformedHandle text)
      else
        match c.node? handle.node with
        | none => .error (.unknownNode handle.node)
        | some node =>
            match node.table.field? handle.field with
            | none => .error (.unknownField handle.node handle.field)
            | some _ => .ok handle

/-- Draw a connection between two handles that name fields on the canvas. The source is checked
first. -/
def connect (c : Canvas) (source target : String) : Except ConnectError Canvas := do
  let s ← c.resolve source
  let t ← c.resolve target
  return { c with connections := c.connections ++ [⟨s.node, source, t.node, target⟩] }

/-- Draw a connection as it is given, provided that its nodes are on the canvas. -/
def insertConnection (c : Canvas) (connection : Connection) : Except ConnectError Canvas :=
  match c.node? connection.source with
  | none => .error (.unknownNode connection.source)
  | some _ =>
      match c.node? connection.target with
      | none => .error (.unknownNode connection.target)
      | some _ => .ok { c with connections := c.connections ++ [connection] }

end Canvas

end QueryCanvas
