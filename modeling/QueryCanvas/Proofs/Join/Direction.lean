import Mathlib.Algebra.BigOperators.Group.List.Basic
import QueryCanvas.Proofs.Canvas.Handles
import QueryCanvas.Proofs.Join.Blocks

/-!
# Joins have no direction

A connection may be drawn the other way round, and between handles of other sides: `Redraw` says
what changes about it. It joins the same columns then, and all that comes of it is that the two
entries of a reversed connection change places (`Connection.block_redraw`). `inferJoins_undirected`
says so of any connections among all, and that every joined entry occurs as often as its mirror.
-/

namespace QueryCanvas

/-! ## Sides of handles -/

/-- The other side. -/
def HandleSide.other : HandleSide → HandleSide
  | .source => .target
  | .target => .source

/-- The handle with the side that it ends in exchanged for the other one. A text that ends in no
side is left as it is. -/
def exchangeSide (handle : String) : String :=
  match splitSide? handle.toList with
  | some (body, side) => String.ofList (body ++ side.other.tail)
  | none => handle

theorem toList_exchangeSide {handle : String} {body : List Char} {side : HandleSide}
    (hends : handle.toList = body ++ side.tail) :
    (exchangeSide handle).toList = body ++ side.other.tail := by
  have hsplit : splitSide? handle.toList = some (body, side) := splitSide?_eq_some_iff.mpr hends
  simp only [exchangeSide, hsplit, String.toList_ofList]

theorem exchangeSide_of_none {handle : String} (hnone : splitSide? handle.toList = none) :
    exchangeSide handle = handle := by
  simp only [exchangeSide, hnone]

/-- Exchanging the side of a written handle writes the handle of the other side. -/
theorem exchangeSide_encode (h : Handle) :
    exchangeSide h.encode = Handle.encode ⟨h.node, h.field, h.side.other⟩ := by
  have hends : h.encode.toList =
      ((nodeText h.node).toList ++ '-' :: h.field.toList) ++ h.side.tail := by
    rw [Handle.toList_encode, List.append_assoc, List.cons_append]
  rw [← String.toList_inj, toList_exchangeSide hends, Handle.toList_encode, List.append_assoc,
    List.cons_append]

/-- Exchanging a side twice gives the handle back. -/
theorem exchangeSide_exchangeSide (handle : String) :
    exchangeSide (exchangeSide handle) = handle := by
  cases hsplit : splitSide? handle.toList with
  | none => rw [exchangeSide_of_none hsplit, exchangeSide_of_none hsplit]
  | some split =>
      obtain ⟨body, side⟩ := split
      have hends : handle.toList = body ++ side.tail := splitSide?_eq_some_iff.mp hsplit
      rw [← String.toList_inj, toList_exchangeSide (toList_exchangeSide hends), hends]
      cases side <;> rfl

/-- The field that a handle names does not depend on its side. -/
theorem fieldOf?_exchangeSide (node : NodeId) (handle : String) :
    fieldOf? node (exchangeSide handle) = fieldOf? node handle := by
  -- A handle is written with a side exactly if the exchanged one is written with the other side.
  have hexchange : ∀ {text field}, fieldOf? node text = some field →
      fieldOf? node (exchangeSide text) = some field := by
    intro text field hfield
    obtain ⟨hne, side, rfl⟩ := fieldOf?_eq_some_iff.mp hfield
    rw [exchangeSide_encode]
    exact fieldOf?_eq_some_iff.mpr ⟨hne, side.other, rfl⟩
  refine Option.ext ?_
  intro field
  constructor
  · intro hfield
    rw [← exchangeSide_exchangeSide handle]
    exact hexchange hfield
  · exact hexchange

/-! ## One connection -/

/-- How a connection is drawn anew: whether its ends change places, and at which of its handles the
side is exchanged. -/
structure Redraw where
  reversed : Bool
  sourceExchanged : Bool
  targetExchanged : Bool

namespace Connection

/-- The connection from the target to the source. -/
def reverse (c : Connection) : Connection :=
  ⟨c.target, c.targetHandle, c.source, c.sourceHandle⟩

/-- The connection with the sides exchanged that its handles end in. -/
def exchange (c : Connection) (source target : Bool) : Connection :=
  { c with
    sourceHandle := if source then exchangeSide c.sourceHandle else c.sourceHandle
    targetHandle := if target then exchangeSide c.targetHandle else c.targetHandle }

/-- The connection drawn anew. -/
def redraw (c : Connection) (r : Redraw) : Connection :=
  let exchanged := c.exchange r.sourceExchanged r.targetExchanged
  if r.reversed then exchanged.reverse else exchanged

variable {nodes : List Node} {c : Connection} {e : Edge}

theorem joins_reverse_iff : c.reverse.Joins nodes e ↔ c.Joins nodes e.reverse := by
  constructor <;> exact fun h => ⟨h.target, h.source, h.targetField, h.sourceField⟩

theorem joins_exchange_iff {source target : Bool} :
    (c.exchange source target).Joins nodes e ↔ c.Joins nodes e := by
  have hsource : fieldOf? c.source (c.exchange source target).sourceHandle =
      fieldOf? c.source c.sourceHandle := by
    cases source
    · rfl
    · exact fieldOf?_exchangeSide c.source c.sourceHandle
  have htarget : fieldOf? c.target (c.exchange source target).targetHandle =
      fieldOf? c.target c.targetHandle := by
    cases target
    · rfl
    · exact fieldOf?_exchangeSide c.target c.targetHandle
  constructor
  · intro h
    exact ⟨h.source, h.target, hsource.symm.trans h.sourceField, htarget.symm.trans h.targetField⟩
  · intro h
    exact ⟨h.source, h.target, hsource.trans h.sourceField, htarget.trans h.targetField⟩

/-- A connection that is drawn anew has the edge that it had, or the reverse one. -/
theorem joins_redraw_iff {r : Redraw} :
    (c.redraw r).Joins nodes e ↔ c.Joins nodes (if r.reversed then e.reverse else e) := by
  unfold redraw
  split
  · rw [joins_reverse_iff, joins_exchange_iff]
  · rw [joins_exchange_iff]

theorem Joins.redraw (h : c.Joins nodes e) (r : Redraw) :
    (c.redraw r).Joins nodes (if r.reversed then e.reverse else e) := by
  rw [joins_redraw_iff]
  split <;> exact h

/-- A connection that is dropped is dropped however it is drawn, if perhaps for another reason. -/
theorem fault?_redraw_eq_none_iff (c : Connection) (r : Redraw) :
    (c.redraw r).fault? nodes = none ↔ c.fault? nodes = none := by
  rw [fault?_eq_none_iff, fault?_eq_none_iff]
  constructor
  · rintro ⟨e, hjoins⟩
    exact ⟨_, joins_redraw_iff.mp hjoins⟩
  · rintro ⟨e, hjoins⟩
    exact ⟨_, hjoins.redraw r⟩

/-- The entries of a reversed connection change places; nothing else comes of drawing it anew. -/
theorem block_redraw (c : Connection) (r : Redraw) :
    (c.redraw r).block nodes =
      if r.reversed then (c.block nodes).reverse else c.block nodes := by
  by_cases hfault : c.fault? nodes = none
  · obtain ⟨e, hjoins⟩ := fault?_eq_none_iff.mp hfault
    rw [hjoins.block_eq, (hjoins.redraw r).block_eq]
    split <;> rfl
  · have hredrawn : (c.redraw r).fault? nodes ≠ none := mt (fault?_redraw_eq_none_iff c r).mp hfault
    rw [block_eq_nil_of_fault? hfault, block_eq_nil_of_fault? hredrawn]
    split <;> rfl

theorem mem_block_redraw {r : Redraw} {entry : ReferenceEntry} :
    entry ∈ (c.redraw r).block nodes ↔ entry ∈ c.block nodes := by
  rw [block_redraw]
  split
  · exact List.mem_reverse
  · exact Iff.rfl

end Connection

/-! ## All connections -/

/-- Connections that are drawn anew leave the same labels bare. -/
theorem bareLabels_redraw (nodes : List Node) {n : Nat} (connections : Fin n → Connection)
    (redraws : Fin n → Redraw) :
    bareLabels nodes (List.ofFn fun i => (connections i).redraw (redraws i)) =
      bareLabels nodes (List.ofFn connections) := by
  refine bareLabels_congr ?_
  intro entry
  simp only [List.mem_flatMap, List.mem_ofFn, exists_exists_eq_and, Connection.mem_block_redraw]

namespace Edge

variable {e : Edge} {a b x y : String}

/-- The edge that an entry is the forward entry of. -/
theorem forward_eq_iff : e.forward = .joined a ⟨b, x, y⟩ ↔ e = ⟨a, x, b, y⟩ := by
  obtain ⟨source, sourceField, target, targetField⟩ := e
  simp only [forward, ReferenceEntry.joined, ReferenceEntry.mk.injEq, Option.some.injEq,
    JoinDescriptor.mk.injEq, Edge.mk.injEq, true_and]
  tauto

/-- The edge that an entry is the backward entry of. -/
theorem backward_eq_iff : e.backward = .joined a ⟨b, x, y⟩ ↔ e = ⟨b, y, a, x⟩ := by
  show e.reverse.forward = .joined a ⟨b, x, y⟩ ↔ e = ⟨b, y, a, x⟩
  rw [forward_eq_iff]
  exact ⟨congrArg reverse, congrArg reverse⟩

/-- An edge has an entry as often as the mirror of the entry. -/
theorem count_entries_mirror (e : Edge) (a b x y : String) :
    e.entries.count (.joined a ⟨b, x, y⟩) = e.entries.count (.joined b ⟨a, y, x⟩) := by
  -- Each is the forward entry of the edge that has the other as its backward entry.
  simp only [entries, List.count_cons, List.count_nil, beq_iff_eq, forward_eq_iff, backward_eq_iff]
  omega

end Edge

/-- Every joined entry occurs as often as its mirror. -/
theorem count_mirror (nodes : List Node) (connections : List Connection) (a b x y : String) :
    (inferJoins nodes connections).entries.count (.joined a ⟨b, x, y⟩) =
      (inferJoins nodes connections).entries.count (.joined b ⟨a, y, x⟩) := by
  have hbare : ∀ name join, ((bareLabels nodes connections).map ReferenceEntry.bare).count
      (.joined name join) = 0 := by
    intro name join
    rw [List.count_eq_zero]
    intro hentry
    obtain ⟨label, -, hlabel⟩ := List.mem_map.mp hentry
    cases hlabel
  rw [entries_inferJoins, List.count_append, List.count_append, hbare, hbare, List.count_flatMap,
    List.count_flatMap]
  congr 2
  refine List.map_congr_left ?_
  intro e _
  exact e.count_entries_mirror a b x y

/-- Joins have no direction. Connections may be reversed and the sides of their handles exchanged,
each on its own: the same connections are dropped, the bare entries stay, and the entries of a pair
change places exactly if its connection is reversed. Every joined entry occurs as often as its
mirror. -/
theorem inferJoins_undirected (nodes : List Node) (connections : List Connection)
    (redraws : Fin connections.length → Redraw) :
    let drawn := inferJoins nodes connections
    let redrawn := inferJoins nodes (List.ofFn fun i => (connections.get i).redraw (redraws i))
    redrawn.dropped.map (·.index) = drawn.dropped.map (·.index) ∧
    (∃ block bare, drawn.Blocks block bare ∧
      redrawn.Blocks
        (fun i => if (redraws i).reversed then (block i).reverse else block i) bare) ∧
    ∀ a b x y,
      drawn.entries.count (.joined a ⟨b, x, y⟩) = drawn.entries.count (.joined b ⟨a, y, x⟩) := by
  intro drawn redrawn
  have hdrawn : drawn = inferJoins nodes (List.ofFn connections.get) := by
    rw [List.ofFn_get]
  refine ⟨?_, ?_, count_mirror nodes connections⟩
  · rw [hdrawn]
    exact map_index_dropped_congr fun i =>
      (connections.get i).fault?_redraw_eq_none_iff (redraws i)
  · have hredrawn := blocks_inferJoins nodes fun i => (connections.get i).redraw (redraws i)
    rw [bareLabels_redraw] at hredrawn
    simp only [Connection.block_redraw] at hredrawn
    rw [hdrawn]
    exact ⟨_, _, blocks_inferJoins nodes connections.get, hredrawn⟩

end QueryCanvas
