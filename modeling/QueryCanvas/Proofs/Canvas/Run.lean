import Mathlib.Data.List.Forall2
import QueryCanvas.Proofs.Canvas.Growth

/-!
# Runs of a canvas

A run makes calls one after another and logs their answers; a refused call leaves the canvas as it
is. `Canvas.Step` says all that a call can do. From it follows what a run does: it extends the
canvas (`Canvas.run_extends`), adds one node for each table (`Canvas.run_tables`) and one connection
for each accepted call (`Canvas.run_connections`), keeps it numbered as long as there are numbers
(`Canvas.run_numbered`) and keeps it tidy (`Canvas.run_tidy`): the nodes sit on the grid, and no
connection hangs in the air.
-/

namespace QueryCanvas

namespace Canvas

/-- A call of a canvas. -/
inductive Call where
  | addTable (table : Table)
  | connect (source target : String)
  | insertConnection (connection : Connection)
deriving DecidableEq

/-- The answer to a call: the number of the node, the place of the connection, or a refusal. -/
inductive Answer where
  | placed (id : NodeId)
  | drawn (place : Nat)
  | refused (error : ConnectError)
deriving DecidableEq

/-- The table that a call places. -/
def Call.table? : Call → Option Table
  | .addTable table => some table
  | _ => none

/-- The tables that calls place, in their order. -/
def tablesOf (calls : List Call) : List Table :=
  calls.filterMap Call.table?

/-- The call of a log entry, if it drew a connection. -/
def drawing? : Call × Answer → Option Call
  | (call, .drawn _) => some call
  | _ => none

/-- The calls of a log that drew a connection, in their order. -/
def drawings (log : List (Call × Answer)) : List Call :=
  log.filterMap drawing?

/-- The connection has the handles that the call gives, and the nodes that it gives or that its
handles are written with. -/
inductive Call.Draws : Call → Connection → Prop where
  | connect {source target s t} :
      Handle.parse? source = some s → s.encode = source →
      Handle.parse? target = some t → t.encode = target →
      Draws (.connect source target) ⟨s.node, source, t.node, target⟩
  | insertConnection (connection) : Draws (.insertConnection connection) connection

/-- The answer to an attempt to draw a connection, and the canvas after it. -/
def settle (c : Canvas) : Except ConnectError Canvas → Answer × Canvas
  | .ok next => (.drawn c.connections.length, next)
  | .error e => (.refused e, c)

/-- Make a call. -/
def perform (c : Canvas) : Call → Answer × Canvas
  | .addTable table => (c.addTable table).map .placed id
  | .connect source target => c.settle (c.connect source target)
  | .insertConnection connection => c.settle (c.insertConnection connection)

/-- Make calls in turn: the log of the calls with their answers, and the canvas in the end. -/
def run (c : Canvas) : List Call → List (Call × Answer) × Canvas
  | [] => ([], c)
  | call :: calls =>
      let (answer, next) := c.perform call
      let (log, last) := next.run calls
      ((call, answer) :: log, last)

@[simp] theorem run_nil (c : Canvas) : c.run [] = ([], c) := rfl

@[simp] theorem run_cons (c : Canvas) (call : Call) (calls : List Call) :
    c.run (call :: calls) =
      ((call, (c.perform call).1) :: ((c.perform call).2.run calls).1,
        ((c.perform call).2.run calls).2) := rfl

/-- Making calls in two goes is making them in one. -/
theorem run_append (c : Canvas) (earlier later : List Call) :
    c.run (earlier ++ later) =
      ((c.run earlier).1 ++ ((c.run earlier).2.run later).1, ((c.run earlier).2.run later).2) := by
  induction earlier generalizing c with
  | nil => rfl
  | cons call earlier ih => rw [List.cons_append, run_cons, run_cons, ih]; rfl

/-! ## One call -/

/-- What a call does: it places a table, it appends the connection that it draws, whose nodes are on
the canvas, or it is refused and changes nothing. -/
inductive Step (c : Canvas) : Call → Answer → Canvas → Prop where
  | placed (table) : Step c (.addTable table) (.placed c.nextId) (c.addTable table).2
  | drawn {call connection} :
      call.Draws connection → c.Has connection.source → c.Has connection.target →
      Step c call (.drawn c.connections.length)
        { c with connections := c.connections ++ [connection] }
  | refused {call} (error) : call.table? = none → Step c call (.refused error) c

/-- Making a call does nothing else. -/
theorem step_perform (c : Canvas) (call : Call) :
    c.Step call (c.perform call).1 (c.perform call).2 := by
  cases call with
  | addTable table => exact .placed table
  | connect source target =>
      cases hdraw : c.connect source target with
      | error e =>
          simp only [perform, settle, hdraw]
          exact .refused e rfl
      | ok next =>
          simp only [perform, settle, hdraw]
          obtain ⟨s, t, hsource, htarget, rfl⟩ := connect_eq_ok_iff.mp hdraw
          obtain ⟨hs, hswritten, source, hsnode, -⟩ := resolve_eq_ok_iff.mp hsource
          obtain ⟨ht, htwritten, target, htnode, -⟩ := resolve_eq_ok_iff.mp htarget
          exact .drawn (.connect hs hswritten ht htwritten) ⟨source, hsnode⟩ ⟨target, htnode⟩
  | insertConnection connection =>
      cases hdraw : c.insertConnection connection with
      | error e =>
          simp only [perform, settle, hdraw]
          exact .refused e rfl
      | ok next =>
          simp only [perform, settle, hdraw]
          obtain ⟨hsource, htarget, rfl⟩ := insertConnection_eq_ok_iff.mp hdraw
          exact .drawn (.insertConnection connection) hsource htarget

/-- A call that draws a connection places no table. -/
theorem Call.Draws.table? {call : Call} {connection : Connection} (h : call.Draws connection) :
    call.table? = none := by
  cases h <;> rfl

variable {c next : Canvas} {call : Call} {answer : Answer} {grid : GridLayout}

/-- A call extends the canvas. -/
theorem Step.extends_canvas (h : c.Step call answer next) : c.Extends next := by
  cases h with
  | placed table => exact extends_addTable c table
  | drawn => exact ⟨List.prefix_rfl, List.prefix_append _ _⟩
  | refused => exact .refl c

/-- A call appends a node for the table that it places. -/
theorem Step.tables (h : c.Step call answer next) :
    next.nodes.map Node.table = c.nodes.map Node.table ++ call.table?.toList := by
  cases h with
  | placed table => simp [Canvas.addTable, Call.table?]
  | drawn hdraws => simp [hdraws.table?]
  | refused _ hother => simp [hother]

/-- A call appends the connection that it draws. -/
theorem Step.connections (h : c.Step call answer next) :
    ∃ drawn, next.connections = c.connections ++ drawn ∧
      List.Forall₂ Call.Draws (drawing? (call, answer)).toList drawn := by
  cases h with
  | placed table => exact ⟨[], (List.append_nil _).symm, .nil⟩
  | @drawn _ connection hdraws => exact ⟨[connection], rfl, .cons hdraws .nil⟩
  | refused => exact ⟨[], (List.append_nil _).symm, .nil⟩

/-- A call that does not use up the numbers keeps the canvas numbered. -/
theorem Step.numbered (h : c.Step call answer next) (hnum : c.Numbered)
    (hroom : next.nodes.length < UInt64.size) : next.Numbered := by
  cases h with
  | placed table =>
      simp only [Canvas.addTable, List.length_append, List.length_singleton] at hroom
      exact hnum.addTable table hroom
  | drawn => exact ⟨hnum.nextId, hnum.ids⟩
  | refused => exact hnum

/-- The nodes sit on the grid, and the ends of the connections are on the canvas. -/
structure Tidy (grid : GridLayout) (c : Canvas) : Prop where
  layout : c.layout = grid
  positions : ∀ node ∈ c.nodes, node.position = grid.positionFor node.id
  ends : ∀ connection ∈ c.connections, c.Has connection.source ∧ c.Has connection.target

namespace Tidy

/-- The canvas without nodes is tidy. -/
theorem empty (grid : GridLayout) : (Canvas.empty grid).Tidy grid where
  layout := rfl
  positions := by simp [Canvas.empty]
  ends := by simp [Canvas.empty]

/-- A table keeps the canvas tidy. -/
theorem addTable (htidy : c.Tidy grid) (table : Table) : (c.addTable table).2.Tidy grid where
  layout := htidy.layout
  positions := by
    intro node hnode
    rcases List.mem_append.mp hnode with hold | hnew
    · exact htidy.positions node hold
    · rw [List.mem_singleton.mp hnew, htidy.layout]
  ends := by
    intro connection hconnection
    obtain ⟨hsource, htarget⟩ := htidy.ends connection hconnection
    have hgrow := extends_addTable c table
    exact ⟨hgrow.has hsource, hgrow.has htarget⟩

/-- A connection between nodes on the canvas keeps it tidy. -/
theorem draw (htidy : c.Tidy grid) {connection : Connection} (hsource : c.Has connection.source)
    (htarget : c.Has connection.target) :
    { c with connections := c.connections ++ [connection] }.Tidy grid where
  layout := htidy.layout
  positions := htidy.positions
  ends := by
    intro other hother
    rcases List.mem_append.mp hother with hold | hnew
    · exact htidy.ends other hold
    · rw [List.mem_singleton.mp hnew]
      exact ⟨hsource, htarget⟩

end Tidy

/-- A call keeps the canvas tidy. -/
theorem Step.tidy (h : c.Step call answer next) (htidy : c.Tidy grid) : next.Tidy grid := by
  cases h with
  | placed table => exact htidy.addTable table
  | drawn _ hsource htarget => exact htidy.draw hsource htarget
  | refused => exact htidy

/-! ## All calls -/

/-- A run extends the canvas. -/
theorem run_extends (c : Canvas) (calls : List Call) : c.Extends (c.run calls).2 := by
  induction calls generalizing c with
  | nil => exact .refl c
  | cons call calls ih => exact (c.step_perform call).extends_canvas.trans (ih _)

/-- A run that does not use up the numbers keeps the canvas numbered. -/
theorem run_numbered {calls : List Call} (hnum : c.Numbered)
    (hroom : (c.run calls).2.nodes.length < UInt64.size) : (c.run calls).2.Numbered := by
  induction calls generalizing c with
  | nil => exact hnum
  | cons call calls ih =>
      -- Nodes are never removed, so there was room after this call too.
      have hgrow := (run_extends (c.perform call).2 calls).nodes.length_le
      exact ih ((c.step_perform call).numbered hnum (Nat.lt_of_le_of_lt hgrow hroom)) hroom

/-- A run keeps the canvas tidy. -/
theorem run_tidy (htidy : c.Tidy grid) (calls : List Call) : (c.run calls).2.Tidy grid := by
  induction calls generalizing c with
  | nil => exact htidy
  | cons call calls ih => exact ih ((c.step_perform call).tidy htidy)

/-- A run appends a node for each table that it places, in their order. -/
theorem run_tables (c : Canvas) (calls : List Call) :
    (c.run calls).2.nodes.map Node.table = c.nodes.map Node.table ++ tablesOf calls := by
  induction calls generalizing c with
  | nil => simp [tablesOf]
  | cons call calls ih =>
      rw [run_cons, ih, (c.step_perform call).tables, List.append_assoc]
      simp only [tablesOf, List.filterMap_eq_flatMap_toList, List.flatMap_cons]

/-- A run adds as many nodes as it places tables. -/
theorem length_nodes_run (c : Canvas) (calls : List Call) :
    (c.run calls).2.nodes.length = c.nodes.length + (tablesOf calls).length := by
  have htables := congrArg List.length (run_tables c calls)
  simpa using htables

/-- From the canvas without nodes, a run that does not use up the numbers ends on a numbered
canvas. -/
theorem run_empty_numbered (grid : GridLayout) {calls : List Call}
    (hroom : (tablesOf calls).length < UInt64.size) :
    ((Canvas.empty grid).run calls).2.Numbered := by
  refine run_numbered (.empty grid) ?_
  rw [length_nodes_run]
  simpa [Canvas.empty] using hroom

/-- A run appends one connection for each call that draws one, in their order. -/
theorem run_connections (c : Canvas) (calls : List Call) :
    ∃ drawn, (c.run calls).2.connections = c.connections ++ drawn ∧
      List.Forall₂ Call.Draws (drawings (c.run calls).1) drawn := by
  induction calls generalizing c with
  | nil => exact ⟨[], (List.append_nil _).symm, .nil⟩
  | cons call calls ih =>
      obtain ⟨first, hfirst, hfirstDraws⟩ := (c.step_perform call).connections
      obtain ⟨rest, hrest, hrestDraws⟩ := ih (c.perform call).2
      refine ⟨first ++ rest, ?_, ?_⟩
      · rw [run_cons, hrest, hfirst, List.append_assoc]
      · have hlog : drawings (c.run (call :: calls)).1 =
            (drawing? (call, (c.perform call).1)).toList ++
              drawings ((c.perform call).2.run calls).1 := by
          simp only [run_cons, drawings, List.filterMap_eq_flatMap_toList, List.flatMap_cons]
        rw [hlog]
        exact List.rel_append hfirstDraws hrestDraws

end Canvas

end QueryCanvas
