import QueryCanvas.Proofs.Canvas.Handles
import QueryCanvas.Proofs.Join.Exactness
import QueryCanvas.Proofs.Session.Run

/-!
# No join dangles

A connect gesture is accepted after one reader has checked its handles; the joins are inferred later
by the other reader, from the texts that were stored. `Canvas.Drew.joins` says that the second
reader finds what the first has checked, and `run_no_dangling_join` that over a whole run every
accepted gesture gives its pair of entries and no connection is dropped.
-/

namespace QueryCanvas

/-- The text is the handle of a column: it names the only node of its number, the node carries the
label, and the table of the node has the column. -/
def Canvas.Names (c : Canvas) (text label column : String) : Prop :=
  ∃ h node, Handle.parse? text = some h ∧ h.encode = text ∧ h.field = column ∧
    node ∈ c.nodes ∧ node.id = h.node ∧ (∀ other ∈ c.nodes, other.id = h.node → other = node) ∧
    node.label = label ∧ ∃ field ∈ node.table.fields, field.id = column

/-- The texts are the handles of the two ends of the edge. -/
def Canvas.NamesEnds (c : Canvas) (ends : String × String) (e : Edge) : Prop :=
  c.Names ends.1 e.sourceTable e.sourceField ∧ c.Names ends.2 e.targetTable e.targetField

variable {c : Canvas}

/-- A handle that resolves names its field, and inference finds the same node and field. -/
theorem Canvas.names_of_resolve (hnum : c.Numbered) {text : String} {h : Handle}
    (hresolve : c.resolve text = .ok h) :
    ∃ node, findNode? c.nodes h.node = some node ∧ fieldOf? h.node text = some h.field ∧
      c.Names text node.label h.field := by
  obtain ⟨hparse, hcanonical, node, hnode, field, hfield⟩ := resolve_eq_ok_iff.mp hresolve
  have hmem : node ∈ c.nodes := List.mem_of_find?_eq_some hnode
  have hid : node.id = h.node := by simpa using List.find?_some hnode
  have hfound : fieldOf? h.node h.encode = some h.field :=
    fieldOf?_encode (Handle.field_ne_of_parse? hparse)
  rw [hcanonical] at hfound
  refine ⟨node, hnode, hfound, h, node, hparse, hcanonical, rfl, hmem, hid, ?_, rfl, field, ?_, ?_⟩
  · intro other hother hsame
    exact hnum.node_unique hother hmem (hsame.trans hid.symm)
  · exact List.mem_of_find?_eq_some hfield
  · simpa using List.find?_some hfield

/-- A drawn connection passes all checks of inference, with the ends that its handles name. -/
theorem Canvas.Drew.joins (hnum : c.Numbered) {ends : String × String} {connection : Connection}
    (hdrew : c.Drew ends connection) :
    ∃ e, connection.Joins c.nodes e ∧ c.NamesEnds ends e := by
  obtain ⟨s, t, hsource, htarget, rfl⟩ := hdrew
  obtain ⟨source, hsourceNode, hsourceField, hsourceNames⟩ := names_of_resolve hnum hsource
  obtain ⟨target, htargetNode, htargetField, htargetNames⟩ := names_of_resolve hnum htarget
  exact ⟨⟨source.label, s.field, target.label, t.field⟩,
    ⟨⟨source, hsourceNode, rfl⟩, ⟨target, htargetNode, rfl⟩, hsourceField, htargetField⟩,
    hsourceNames, htargetNames⟩

/-- Drawn connections are split without dropping any. -/
theorem splits_of_drew (hnum : c.Numbered) {ends : List (String × String)}
    {connections : List Connection} (hdrew : List.Forall₂ c.Drew ends connections) (start : Nat) :
    ∃ joined, Splits c.nodes start connections joined [] ∧
      List.Forall₂ c.NamesEnds ends joined := by
  induction hdrew generalizing start with
  | nil => exact ⟨[], .nil start, .nil⟩
  | cons hfirst _ ih =>
      obtain ⟨e, hjoins, hnames⟩ := hfirst.joins hnum
      obtain ⟨joined, hsplits, hall⟩ := ih (start + 1)
      exact ⟨e :: joined, .joined hjoins hsplits, .cons hnames hall⟩

/-- No join dangles, whatever the gestures of a run and the outcomes of its exports: no connection
is dropped, and the reference tables begin with a mirrored pair for each accepted connect gesture,
in their order, between the columns that its handles name. No entry after these has a join. -/
theorem run_no_dangling_join (layout : GridLayout) (gestures : List Gesture)
    (hroom : gestures.countP Gesture.isAddTable < UInt64.size) :
    let log := ((Session.start layout).run gestures).1
    let s := ((Session.start layout).run gestures).2
    s.compiled.dropped = [] ∧
      ∃ (joined : List Edge) (bare : List ReferenceEntry),
        List.Forall₂ s.canvas.NamesEnds (accepted log) joined ∧
        s.render.referenceTables =
          joined.flatMap (fun e =>
            [.joined e.sourceTable ⟨e.targetTable, e.sourceField, e.targetField⟩,
             .joined e.targetTable ⟨e.sourceTable, e.targetField, e.sourceField⟩]) ++ bare ∧
        ∀ entry ∈ bare, entry.join = none := by
  intro log s
  have hlength : s.canvas.nodes.length = gestures.countP Gesture.isAddTable := by
    rw [Session.length_nodes_run]
    exact Nat.zero_add _
  have hnum : s.canvas.Numbered :=
    Session.run_numbered (Canvas.Numbered.empty layout) (hlength ▸ hroom)
  obtain ⟨drawn, hconnections, hdrawn⟩ := (Session.start layout).run_connections gestures
  have hall : s.canvas.connections = drawn := hconnections
  obtain ⟨joined, hsplits, hnames⟩ := splits_of_drew hnum hdrawn 0
  obtain ⟨hjoined, hdropped⟩ := splits_iff.mp hsplits
  refine ⟨?_, joined, (bareLabels s.canvas.nodes drawn).map ReferenceEntry.bare, hnames, ?_, ?_⟩
  · show droppedFrom s.canvas.nodes 0 s.canvas.connections = []
    rw [hall, ← hdropped]
  · show (inferJoins s.canvas.nodes s.canvas.connections).entries = _
    rw [hall, entries_inferJoins, hjoined]
    rfl
  · intro entry hentry
    obtain ⟨label, -, rfl⟩ := List.mem_map.mp hentry
    rfl

/-- Two tables of one name. The field of the first ends like a handle and that of the second begins
like one; the second connect gesture writes its node with a leading zero and is refused. -/
def twoOrders : List Gesture :=
  [.addTable ⟨"orders", [⟨"order-id-source", "number", .number, false, false⟩]⟩,
   .addTable ⟨"orders", [⟨"1-a", "number", .number, false, false⟩]⟩,
   .connect "0-order-id-source-source" "1-1-a-target",
   .connect "00-order-id-source-source" "1-1-a-target",
   .copy (.error (.clipboardUnavailable "none"))]

theorem run_no_dangling_join_twoOrders :
    twoOrders.countP Gesture.isAddTable < UInt64.size ∧
      accepted ((Session.start {}).run twoOrders).1 =
        [("0-order-id-source-source", "1-1-a-target")] ∧
      ((Session.start {}).run twoOrders).2.compiled.dropped = [] ∧
      ∃ (e : Edge) (bare : List ReferenceEntry),
        ((Session.start {}).run twoOrders).2.canvas.NamesEnds
          ("0-order-id-source-source", "1-1-a-target") e ∧
        ((Session.start {}).run twoOrders).2.render.referenceTables =
          .joined e.sourceTable ⟨e.targetTable, e.sourceField, e.targetField⟩ ::
          .joined e.targetTable ⟨e.sourceTable, e.targetField, e.sourceField⟩ :: bare := by
  have hroom : twoOrders.countP Gesture.isAddTable < UInt64.size := by decide
  have haccepted : accepted ((Session.start {}).run twoOrders).1 =
      [("0-order-id-source-source", "1-1-a-target")] := by decide +kernel
  obtain ⟨hdropped, joined, bare, hnames, htables, -⟩ := run_no_dangling_join {} twoOrders hroom
  rw [haccepted] at hnames
  cases hnames with
  | cons hends hnone =>
      cases hnone
      exact ⟨hroom, haccepted, hdropped, _, bare, hends, htables⟩

end QueryCanvas
