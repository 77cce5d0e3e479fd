import QueryCanvas.Proofs.Canvas.Handles
import QueryCanvas.Proofs.Canvas.Run
import QueryCanvas.Proofs.Join.Split

/-!
# Which fields can be connected

The handle of every field of every node resolves (`Canvas.resolve_encode`), except that the reader
of handles does not read across a line feed (`Canvas.resolve_encode_of_line_feed`), although join
inference does. `Canvas.run_connect_fields` says what becomes of a connection between any two fields
on a canvas, and that inference finds these two fields.
-/

namespace QueryCanvas

namespace Canvas

variable {c : Canvas}

/-- The handle of a field of a node resolves, if the field is written without a line feed. -/
theorem resolve_encode {h : Handle} {node : Node} {field : Field}
    (hnode : c.node? h.node = some node) (hmem : field ∈ node.table.fields)
    (hid : field.id = h.field) (hfield : h.field ≠ "") (hline : '\n' ∉ h.field.toList) :
    c.resolve h.encode = .ok h := by
  have hparse : Handle.parse? h.encode = some h := by
    rw [Handle.parse?_encode, if_pos ⟨hfield, hline⟩]
  exact resolve_eq_ok_iff.mpr
    ⟨hparse, rfl, node, hnode, Table.exists_field?_iff.mpr ⟨field, hmem, hid⟩⟩

/-- A handle whose field holds a line feed is malformed to the canvas. -/
theorem resolve_encode_of_line_feed {h : Handle} (hline : '\n' ∈ h.field.toList) :
    c.resolve h.encode = .error (.malformedHandle h.encode) := by
  have hparse : Handle.parse? h.encode = none := by
    rw [Handle.parse?_encode, if_neg fun hread => hread.2 hline]
  rw [resolve, hparse]

/-- Two handles that resolve are connected. -/
theorem connect_of_resolve {source target : String} {s t : Handle}
    (hsource : c.resolve source = .ok s) (htarget : c.resolve target = .ok t) :
    c.connect source target =
      .ok { c with connections := c.connections ++ [⟨s.node, source, t.node, target⟩] } :=
  connect_eq_ok_iff.mpr ⟨s, t, hsource, htarget, rfl⟩

/-- A refusal of the source is the refusal of the connection. -/
theorem connect_of_source_error {source : String} {e : ConnectError}
    (hsource : c.resolve source = .error e) (target : String) :
    c.connect source target = .error e := by
  rw [connect, hsource]
  rfl

/-- If the source resolves, a refusal of the target is the refusal of the connection. -/
theorem connect_of_target_error {source target : String} {s : Handle} {e : ConnectError}
    (hsource : c.resolve source = .ok s) (htarget : c.resolve target = .error e) :
    c.connect source target = .error e := by
  rw [connect, hsource, htarget]
  rfl

/-- Inference finds the fields of a connection between written handles. -/
theorem edge_encode {nodes : List Node} {first second : Node} {s t : Handle}
    (hfirst : findNode? nodes s.node = some first) (hsecond : findNode? nodes t.node = some second)
    (hs : s.field ≠ "") (ht : t.field ≠ "") :
    Connection.edge nodes ⟨s.node, s.encode, t.node, t.encode⟩ =
      .ok ⟨first.label, s.field, second.label, t.field⟩ :=
  edge_eq_ok_iff.mpr
    ⟨⟨first, hfirst, rfl⟩, ⟨second, hsecond, rfl⟩, fieldOf?_encode hs, fieldOf?_encode ht⟩

/-- A connection drawn last gives the last edge. -/
theorem edges_append_of_edge {nodes : List Node} {connection : Connection} {e : Edge}
    (hedge : connection.edge nodes = .ok e) (connections : List Connection) :
    edges nodes (connections ++ [connection]) = edges nodes connections ++ [e] := by
  simp [edges, hedge, Except.toOption]

/-- Any two fields with ids on a canvas, also of one node, are connected by their handles, whichever
sides these are of, and inference gives the new connection an edge between exactly these fields.
Only a line feed in an id makes the canvas refuse the handle, although inference would find the
field. -/
theorem run_connect_fields (grid : GridLayout) (calls : List Call)
    (hroom : (tablesOf calls).length < UInt64.size) {first second : Node} {x y : Field}
    (hfirst : first ∈ ((Canvas.empty grid).run calls).2.nodes)
    (hsecond : second ∈ ((Canvas.empty grid).run calls).2.nodes)
    (hx : x ∈ first.table.fields) (hy : y ∈ second.table.fields) (hxid : x.id ≠ "")
    (hyid : y.id ≠ "") (sourceSide targetSide : HandleSide) :
    let c := ((Canvas.empty grid).run calls).2
    let source := Handle.encode ⟨first.id, x.id, sourceSide⟩
    let target := Handle.encode ⟨second.id, y.id, targetSide⟩
    let drawn := c.connections ++ [⟨first.id, source, second.id, target⟩]
    c.connect source target =
        (if '\n' ∈ x.id.toList then .error (.malformedHandle source)
        else if '\n' ∈ y.id.toList then .error (.malformedHandle target)
        else .ok { c with connections := drawn }) ∧
      edges c.nodes drawn =
        edges c.nodes c.connections ++ [⟨first.label, x.id, second.label, y.id⟩] := by
  intro c source target drawn
  have hnum : c.Numbered := run_empty_numbered grid hroom
  have hfirstNode : c.node? first.id = some first := hnum.node?_of_mem hfirst
  have hsecondNode : c.node? second.id = some second := hnum.node?_of_mem hsecond
  constructor
  · -- The source is resolved first, so its refusal comes before one of the target.
    split
    · rename_i hline
      exact connect_of_source_error (resolve_encode_of_line_feed hline) target
    · rename_i hxline
      have hsource : c.resolve source = .ok ⟨first.id, x.id, sourceSide⟩ :=
        resolve_encode hfirstNode hx rfl hxid hxline
      split
      · rename_i hline
        exact connect_of_target_error hsource (resolve_encode_of_line_feed hline)
      · rename_i hyline
        exact connect_of_resolve hsource (resolve_encode hsecondNode hy rfl hyid hyline)
  · have hedge : Connection.edge c.nodes ⟨first.id, source, second.id, target⟩ =
        .ok ⟨first.label, x.id, second.label, y.id⟩ :=
      edge_encode (s := ⟨first.id, x.id, sourceSide⟩) (t := ⟨second.id, y.id, targetSide⟩)
        hfirstNode hsecondNode hxid hyid
    exact edges_append_of_edge hedge c.connections

/-- A column that is named like a part of a handle. -/
def handleLike : Field :=
  ⟨"1-a-source", "mark", .text, false, false⟩

/-- A column that is named across two lines. -/
def twoLine : Field :=
  ⟨"a\nb", "note", .text, false, false⟩

/-- The canvas finds its way through the digits, dashes and side names of a column, but refuses a
handle with a line feed. -/
theorem run_connect_fields_notes :
    let calls : List Call := [.addTable ⟨"notes", [handleLike, twoLine]⟩]
    let c := ((Canvas.empty {}).run calls).2
    let node : Node := ⟨0, ⟨"notes", [handleLike, twoLine]⟩, GridLayout.positionFor {} 0⟩
    let source := Handle.encode ⟨0, handleLike.id, .target⟩
    let target := Handle.encode ⟨0, handleLike.id, .source⟩
    let drawn := c.connections ++ [⟨0, source, 0, target⟩]
    (tablesOf calls).length < UInt64.size ∧ node ∈ c.nodes ∧ handleLike.id ≠ "" ∧ twoLine.id ≠ "" ∧
      c.connect source target = .ok { c with connections := drawn } ∧
      edges c.nodes drawn =
        edges c.nodes c.connections ++ [⟨"notes", "1-a-source", "notes", "1-a-source"⟩] ∧
      c.connect (Handle.encode ⟨0, twoLine.id, .source⟩) target =
        .error (.malformedHandle (Handle.encode ⟨0, twoLine.id, .source⟩)) := by
  intro calls c node source target drawn
  have hroom : (tablesOf calls).length < UInt64.size := by decide
  have hnode : node ∈ c.nodes := List.mem_cons_self
  have hlike : handleLike ∈ node.table.fields := List.mem_cons_self
  have htwo : twoLine ∈ node.table.fields := List.mem_cons_of_mem _ List.mem_cons_self
  have hlikeId : handleLike.id ≠ "" := by decide
  have htwoId : twoLine.id ≠ "" := by decide
  obtain ⟨hdrawn, hedges⟩ := run_connect_fields {} calls hroom hnode hnode hlike hlike hlikeId
    hlikeId .target .source
  obtain ⟨hrefused, -⟩ := run_connect_fields {} calls hroom hnode hnode htwo hlike htwoId
    hlikeId .source .source
  have hlikeLine : '\n' ∉ handleLike.id.toList := by decide
  have htwoLine : '\n' ∈ twoLine.id.toList := by decide
  rw [if_neg hlikeLine, if_neg hlikeLine] at hdrawn
  rw [if_pos htwoLine] at hrefused
  exact ⟨hroom, hnode, hlikeId, htwoId, hdrawn, hedges, hrefused⟩

/-- A column of a table on the canvas has a name, and yet its handle is refused. -/
theorem run_refuses_line_feed :
    twoLine.id ≠ "" ∧
      ((Canvas.empty {}).run
          [.addTable ⟨"notes", [twoLine]⟩,
           .connect (Handle.encode ⟨0, twoLine.id, .source⟩)
             (Handle.encode ⟨0, twoLine.id, .target⟩)]
        ).1.map Prod.snd = [.placed 0, .refused (.malformedHandle "0-a\nb-source")] := by
  decide +kernel

end Canvas

end QueryCanvas
