import QueryCanvas.Proofs.Canvas.Run
import QueryCanvas.Proofs.Join.Split

/-!
# A canvas records its calls

`Canvas.Records` says what a canvas holds after a run of calls: its nodes are the placed tables, its
connections are those of the accepted calls, both in call order and for good. `run_records` gives
it for every run that does not use up the node numbers.
-/

namespace QueryCanvas

/-- A connection is dropped for an unknown node only if one of its nodes is not there. -/
theorem Connection.Fails.unknownNode {nodes : List Node} {c : Connection} {id : NodeId}
    (h : c.Fails nodes (.unknownNode id)) :
    findNode? nodes c.source = none ∨ findNode? nodes c.target = none := by
  cases h with
  | source hsource => exact .inl hsource
  | target _ htarget => exact .inr htarget

/-- Whatever is dropped in a split fails a check. -/
theorem Splits.fails_of_mem {nodes : List Node} {start : Nat} {connections : List Connection}
    {joined : List Edge} {dropped : List Dropped}
    (h : Splits nodes start connections joined dropped) {d : Dropped} (hd : d ∈ dropped) :
    d.connection ∈ connections ∧ d.connection.Fails nodes d.reason := by
  induction h with
  | nil => cases hd
  | joined _ _ ih =>
      obtain ⟨hmem, hfails⟩ := ih hd
      exact ⟨List.mem_cons_of_mem _ hmem, hfails⟩
  | dropped hfirst _ ih =>
      rcases List.mem_cons.mp hd with rfl | hd
      · exact ⟨List.mem_cons_self, hfirst⟩
      · obtain ⟨hmem, hfails⟩ := ih hd
        exact ⟨List.mem_cons_of_mem _ hmem, hfails⟩

namespace Canvas

variable {c : Canvas} {grid : GridLayout}

/-- On a tidy canvas no connection is dropped for an unknown node. -/
theorem Tidy.reason_ne_unknownNode (htidy : c.Tidy grid) {d : Dropped}
    (hd : d ∈ (inferJoins c.nodes c.connections).dropped) (id : NodeId) :
    d.reason ≠ .unknownNode id := by
  intro hreason
  obtain ⟨hmem, hfails⟩ := (splits_edges_droppedFrom c.nodes 0 c.connections).fails_of_mem hd
  obtain ⟨⟨source, hsource⟩, target, htarget⟩ := htidy.ends d.connection hmem
  rw [hreason] at hfails
  rcases hfails.unknownNode with hnone | hnone
  · exact Option.some_ne_none source (hsource.symm.trans hnone)
  · exact Option.some_ne_none target (htarget.symm.trans hnone)

/-- What a canvas holds after calls with the given log. -/
structure Records (grid : GridLayout) (calls : List Call) (log : List (Call × Answer))
    (c : Canvas) : Prop where
  /-- There are as many nodes as calls that place a table. -/
  count : c.nodes.length = (tablesOf calls).length
  /-- The `i`-th node has the number `i`, holds the `i`-th table and sits where the grid says. -/
  node : ∀ (i : Nat) (n : Node), c.nodes[i]? = some n →
    n.id.toNat = i ∧ (tablesOf calls)[i]? = some n.table ∧ n.position = grid.positionFor n.id
  /-- A number finds the node at its place, and nothing if it is not below the number of nodes. -/
  lookup : ∀ id, c.node? id = c.nodes[id.toNat]?
  /-- The names of the tables are given in order and with repetitions. -/
  tableNames : c.tableNames = (tablesOf calls).map Table.name
  /-- Both ends of every connection are nodes of the canvas. -/
  ends : ∀ connection ∈ c.connections,
    connection.source.toNat < c.nodes.length ∧ connection.target.toNat < c.nodes.length
  /-- Inference never drops a connection for an unknown node. -/
  known : ∀ d ∈ (inferJoins c.nodes c.connections).dropped, ∀ id, d.reason ≠ .unknownNode id
  /-- The connections are those of the calls that drew one, in call order. -/
  connections : List.Forall₂ Call.Draws (drawings log) c.connections

/-- A canvas records its calls. Whatever calls are made, in any order and with any arguments, the
canvas holds the placed tables and the connections of the accepted calls, in call order, and what it
held after the first of the calls it still holds after all of them, in the same place. -/
theorem run_records (grid : GridLayout) (calls : List Call)
    (hroom : (tablesOf calls).length < UInt64.size) :
    let log := ((Canvas.empty grid).run calls).1
    let c := ((Canvas.empty grid).run calls).2
    c.Records grid calls log ∧
      ∀ earlier later, calls = earlier ++ later →
        ((Canvas.empty grid).run earlier).2.Extends c := by
  intro log c
  have htables : c.nodes.map Node.table = tablesOf calls := run_tables (Canvas.empty grid) calls
  have hlength : c.nodes.length = (tablesOf calls).length := by
    rw [← htables, List.length_map]
  have hnum : c.Numbered := run_empty_numbered grid hroom
  have htidy : c.Tidy grid := run_tidy (.empty grid) calls
  obtain ⟨drawn, hconnections, hdraws⟩ := run_connections (Canvas.empty grid) calls
  refine ⟨{
    count := hlength
    node := ?_
    lookup := hnum.node?_eq_getElem?
    tableNames := ?_
    ends := ?_
    known := fun _ hd => htidy.reason_ne_unknownNode hd
    connections := ?_ }, ?_⟩
  · intro i n hn
    refine ⟨hnum.toNat_id hn, ?_, htidy.positions n (List.mem_of_getElem? hn)⟩
    rw [← htables, List.getElem?_map, hn]
    rfl
  · rw [← htables, List.map_map]
    rfl
  · intro connection hconnection
    obtain ⟨hsource, htarget⟩ := htidy.ends connection hconnection
    exact ⟨hnum.has_iff_lt.mp hsource, hnum.has_iff_lt.mp htarget⟩
  · rw [show c.connections = drawn from hconnections]
    exact hdraws
  · -- The later calls are made on the canvas that the earlier ones left.
    rintro earlier later rfl
    show ((Canvas.empty grid).run earlier).2.Extends ((Canvas.empty grid).run (earlier ++ later)).2
    rw [run_append]
    exact run_extends _ later

/-- One table placed twice. The second call that draws a connection keeps a text that is no handle;
the last two calls name nodes that are not there. -/
def twoParts : List Call :=
  [.addTable ⟨"parts", [⟨"id", "id", .number, true, false⟩]⟩,
   .addTable ⟨"parts", [⟨"id", "id", .number, true, false⟩]⟩,
   .connect "0-id-source" "1-id-target",
   .insertConnection ⟨1, "no handle", 0, "0-id-target"⟩,
   .insertConnection ⟨2, "2-id-source", 0, "0-id-target"⟩,
   .connect "7-id-source" "0-id-target"]

theorem run_records_twoParts :
    (tablesOf twoParts).length < UInt64.size ∧
      drawings ((Canvas.empty {}).run twoParts).1 =
        [.connect "0-id-source" "1-id-target",
         .insertConnection ⟨1, "no handle", 0, "0-id-target"⟩] ∧
      ((Canvas.empty {}).run twoParts).2.Records {} twoParts ((Canvas.empty {}).run twoParts).1 ∧
      ((Canvas.empty {}).run (twoParts.take 3)).2.Extends ((Canvas.empty {}).run twoParts).2 := by
  have hroom : (tablesOf twoParts).length < UInt64.size := by decide
  obtain ⟨hrecords, hgrows⟩ := run_records {} twoParts hroom
  exact ⟨hroom, by decide +kernel, hrecords, hgrows (twoParts.take 3) (twoParts.drop 3) rfl⟩

end Canvas

end QueryCanvas
