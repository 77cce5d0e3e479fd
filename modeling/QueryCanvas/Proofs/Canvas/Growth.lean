import Mathlib.Data.List.Nodup
import QueryCanvas.Canvas.Basic

/-!
# Canvases only grow

`Canvas.Extends` relates a canvas to the ones that it can grow into: nodes and connections are only
appended, so whatever is found on a canvas is still found later (`Extends.node?`,
`Extends.resolve`). `Canvas.Numbered` is the invariant of the node numbers: as long as the numbers
suffice, each node carries its place, so no two nodes share a number.
-/

namespace QueryCanvas

/-- No node is found under a number exactly if no node carries it. -/
theorem findNode?_eq_none_iff {nodes : List Node} {id : NodeId} :
    findNode? nodes id = none ↔ ∀ node ∈ nodes, node.id ≠ id := by
  simp [findNode?]

namespace Table

variable {table : Table} {id : String}

/-- A table finds a field exactly if one of its fields has the id. -/
theorem exists_field?_iff :
    (∃ found, table.field? id = some found) ↔ ∃ field ∈ table.fields, field.id = id := by
  rw [← Option.isSome_iff_exists, field?, List.find?_isSome]
  simp

theorem field?_eq_none_iff : table.field? id = none ↔ ∀ field ∈ table.fields, field.id ≠ id := by
  simp [field?]

end Table

namespace Canvas

variable {c next : Canvas} {source target text : String} {h : Handle}

/-- A text resolves to a handle exactly if it is the canonical form of that handle, and the handle
names a field of the table of a node. -/
theorem resolve_eq_ok_iff :
    c.resolve text = .ok h ↔
      Handle.parse? text = some h ∧ h.encode = text ∧
        ∃ node, c.node? h.node = some node ∧ ∃ field, node.table.field? h.field = some field := by
  constructor
  · intro hok
    unfold resolve at hok
    split at hok
    · cases hok
    · rename_i parsed hparse
      split at hok
      · cases hok
      · rename_i hcanonical
        split at hok
        · cases hok
        · rename_i node hnode
          split at hok
          · cases hok
          · rename_i field hfield
            cases hok
            exact ⟨hparse, not_not.mp hcanonical, node, hnode, field, hfield⟩
  · rintro ⟨hparse, hcanonical, node, hnode, field, hfield⟩
    simp [resolve, hparse, hcanonical, hnode, hfield]

/-- A connection is drawn exactly if both texts resolve; it is then appended with the nodes of the
two handles. -/
theorem connect_eq_ok_iff :
    c.connect source target = .ok next ↔
      ∃ s t, c.resolve source = .ok s ∧ c.resolve target = .ok t ∧
        next = { c with connections := c.connections ++ [⟨s.node, source, t.node, target⟩] } := by
  unfold connect
  cases hs : c.resolve source with
  | error e => simp [bind, Except.bind]
  | ok s =>
      cases ht : c.resolve target with
      | error e => simp [bind, Except.bind]
      | ok t => simp [bind, Except.bind, pure, Except.pure, eq_comm]

/-- A node with the number is on the canvas. -/
def Has (c : Canvas) (id : NodeId) : Prop :=
  ∃ node, c.node? id = some node

/-- A connection given as a whole is drawn exactly if its nodes are on the canvas; it is then
appended. -/
theorem insertConnection_eq_ok_iff {connection : Connection} :
    c.insertConnection connection = .ok next ↔
      c.Has connection.source ∧ c.Has connection.target ∧
        next = { c with connections := c.connections ++ [connection] } := by
  unfold insertConnection Has
  cases hsource : c.node? connection.source with
  | none => simp
  | some source =>
      cases htarget : c.node? connection.target with
      | none => simp
      | some target => simp [eq_comm]

end Canvas

/-- The first node with an id stays the first when nodes are appended. -/
theorem findNode?_grown {nodes more : List Node} (hstart : nodes <+: more) {id : NodeId}
    {node : Node} (hfound : findNode? nodes id = some node) : findNode? more id = some node := by
  obtain ⟨rest, rfl⟩ := hstart
  unfold findNode? at hfound ⊢
  rw [List.find?_append, hfound]
  rfl

namespace Canvas

/-- The second canvas has the nodes and connections of the first, and maybe more after them. -/
structure Extends (c next : Canvas) : Prop where
  nodes : c.nodes <+: next.nodes
  connections : c.connections <+: next.connections

namespace Extends

variable {c next last : Canvas}

theorem refl (c : Canvas) : c.Extends c :=
  ⟨List.prefix_rfl, List.prefix_rfl⟩

theorem trans (first : c.Extends next) (second : next.Extends last) : c.Extends last :=
  ⟨first.nodes.trans second.nodes, first.connections.trans second.connections⟩

/-- What a canvas finds under a number stays there. -/
theorem node? (hgrow : c.Extends next) {id : NodeId} {node : Node}
    (hfound : c.node? id = some node) : next.node? id = some node :=
  findNode?_grown hgrow.nodes hfound

/-- A node stays on the canvas. -/
theorem has (hgrow : c.Extends next) {id : NodeId} (hhas : c.Has id) : next.Has id := by
  obtain ⟨node, hfound⟩ := hhas
  exact ⟨node, hgrow.node? hfound⟩

/-- A text that resolves keeps its handle. -/
theorem resolve (hgrow : c.Extends next) {text : String} {h : Handle}
    (hresolve : c.resolve text = .ok h) : next.resolve text = .ok h := by
  obtain ⟨hparse, hcanonical, node, hnode, hfield⟩ := resolve_eq_ok_iff.mp hresolve
  exact resolve_eq_ok_iff.mpr ⟨hparse, hcanonical, node, hgrow.node? hnode, hfield⟩

end Extends

/-- Placing a table extends the canvas. -/
theorem extends_addTable (c : Canvas) (table : Table) : c.Extends (c.addTable table).2 :=
  ⟨List.prefix_append _ _, List.prefix_rfl⟩

/-- Every node carries its place as its number, and the next number is that of the next place. -/
structure Numbered (c : Canvas) : Prop where
  nextId : c.nextId.toNat = c.nodes.length
  ids : c.nodes.map (·.id.toNat) = List.range c.nodes.length

namespace Numbered

/-- The canvas without nodes is numbered. -/
theorem empty (layout : GridLayout) : (Canvas.empty layout).Numbered :=
  ⟨rfl, rfl⟩

/-- A table that does not use up the numbers keeps the canvas numbered. -/
theorem addTable {c : Canvas} (hnum : c.Numbered) (table : Table)
    (hroom : c.nodes.length + 1 < UInt64.size) : (c.addTable table).2.Numbered where
  nextId := by
    have hnext : (c.nextId + 1).toNat = c.nextId.toNat + 1 := by
      rw [UInt64.toNat_add, UInt64.toNat_one, hnum.nextId]
      exact Nat.mod_eq_of_lt hroom
    simp only [Canvas.addTable, List.length_append, List.length_singleton]
    rw [hnext, hnum.nextId]
  ids := by
    simp only [Canvas.addTable, List.map_append, List.map_cons, List.map_nil, List.length_append,
      List.length_singleton, List.range_succ]
    rw [hnum.ids, hnum.nextId]

/-- The number of a node is its place. -/
theorem toNat_id {c : Canvas} (hnum : c.Numbered) {place : Nat} {node : Node}
    (hplace : c.nodes[place]? = some node) : node.id.toNat = place := by
  have hlt : place < c.nodes.length := (List.getElem?_eq_some_iff.mp hplace).1
  have hids : (c.nodes.map (·.id.toNat))[place]? = (List.range c.nodes.length)[place]? := by
    rw [hnum.ids]
  rw [List.getElem?_map, hplace, List.getElem?_range hlt] at hids
  exact Option.some.inj hids

/-- A canvas finds under a number the node at that place. -/
theorem node?_eq_getElem? {c : Canvas} (hnum : c.Numbered) (id : NodeId) :
    c.node? id = c.nodes[id.toNat]? := by
  cases hfound : c.node? id with
  | some node =>
      obtain ⟨place, hplace⟩ := List.mem_iff_getElem?.mp (List.mem_of_find?_eq_some hfound)
      have hid : node.id = id := by simpa using List.find?_some hfound
      rw [← hid, hnum.toNat_id hplace, hplace]
  | none =>
      -- A node at that place would have the number, and the search would have met it.
      symm
      rw [Option.eq_none_iff_forall_ne_some]
      intro node hplace
      have hid : node.id = id := UInt64.toNat_inj.mp (hnum.toNat_id hplace)
      have hother := List.find?_eq_none.mp hfound node (List.mem_of_getElem? hplace)
      simp [hid] at hother

/-- A node on the canvas is found under its number. -/
theorem node?_of_mem {c : Canvas} (hnum : c.Numbered) {node : Node} (hnode : node ∈ c.nodes) :
    c.node? node.id = some node := by
  obtain ⟨place, hplace⟩ := List.mem_iff_getElem?.mp hnode
  rw [hnum.node?_eq_getElem?, hnum.toNat_id hplace, hplace]

/-- The nodes on a canvas are those whose number is a place. -/
theorem has_iff_lt {c : Canvas} (hnum : c.Numbered) {id : NodeId} :
    c.Has id ↔ id.toNat < c.nodes.length := by
  unfold Has
  rw [hnum.node?_eq_getElem? id, ← Option.isSome_iff_exists]
  simp

/-- Two nodes of one number are the same node. -/
theorem node_unique {c : Canvas} (hnum : c.Numbered) {first second : Node}
    (hfirst : first ∈ c.nodes) (hsecond : second ∈ c.nodes) (hsame : first.id = second.id) :
    first = second := by
  have hnodup : (c.nodes.map (·.id.toNat)).Nodup := by
    rw [hnum.ids]
    exact List.nodup_range
  exact List.inj_on_of_nodup_map hnodup hfirst hsecond (congrArg UInt64.toNat hsame)

end Numbered

end Canvas

end QueryCanvas
