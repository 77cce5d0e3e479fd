import QueryCanvas.Proofs.Canvas.Verdicts
import QueryCanvas.Proofs.Join.Exactness

/-!
# Later calls undo nothing

A connection whose nodes are on a canvas has the same edge, or the same fault, on every canvas that
the first one grows into (`Canvas.Extends.edge_eq`), so inference keeps its joins and its dropped
connections. What the canvas answers to two handles changes only while a node is missing
(`Canvas.Extends.connect_error`). `Canvas.run_keeps` says both of any two moments of a run.
-/

namespace QueryCanvas

/-- The entries with a join, in their order. -/
def Inference.joined (inference : Inference) : List ReferenceEntry :=
  inference.entries.filter fun entry => entry.join.isSome

/-- The entries with a join are the pairs of the edges. -/
theorem joined_inferJoins (nodes : List Node) (connections : List Connection) :
    (inferJoins nodes connections).joined = (edges nodes connections).flatMap Edge.entries := by
  have hpairs : ((edges nodes connections).flatMap Edge.entries).filter
      (fun entry => entry.join.isSome) = (edges nodes connections).flatMap Edge.entries := by
    rw [List.filter_eq_self]
    intro entry hentry
    exact Option.isSome_iff_ne_none.mpr (join_ne_none_of_mem_flatMap hentry)
  have hbare : ((bareLabels nodes connections).map ReferenceEntry.bare).filter
      (fun entry => entry.join.isSome) = [] := by
    rw [List.filter_eq_nil_iff]
    intro entry hentry
    obtain ⟨label, -, rfl⟩ := List.mem_map.mp hentry
    exact Bool.false_ne_true
  rw [Inference.joined, entries_inferJoins, List.filter_append, hpairs, hbare, List.append_nil]

section SameEdges

variable {nodes more : List Node} {connections : List Connection}

/-- Connections that have the same edges on two canvases are joined alike. -/
theorem edges_congr (hsame : ∀ c ∈ connections, c.edge more = c.edge nodes) :
    edges more connections = edges nodes connections := by
  refine List.filterMap_congr ?_
  intro c hc
  rw [hsame c hc]

/-- Connections that have the same edges on two canvases are dropped alike. -/
theorem droppedFrom_congr (hsame : ∀ c ∈ connections, c.edge more = c.edge nodes) (start : Nat) :
    droppedFrom more start connections = droppedFrom nodes start connections := by
  induction connections generalizing start with
  | nil => rfl
  | cons c connections ih =>
      have hrest := ih fun d hd => hsame d (List.mem_cons_of_mem c hd)
      rw [droppedFrom, droppedFrom, hsame c List.mem_cons_self, hrest]

/-- The edges of two lists of connections are those of the first and then those of the second. -/
theorem edges_append (nodes : List Node) (first second : List Connection) :
    edges nodes (first ++ second) = edges nodes first ++ edges nodes second :=
  List.filterMap_append

/-- The dropped connections of two lists are those of the first and then those of the second. -/
theorem droppedFrom_append (nodes : List Node) (start : Nat) (first second : List Connection) :
    droppedFrom nodes start (first ++ second) =
      droppedFrom nodes start first ++ droppedFrom nodes (start + first.length) second := by
  induction first generalizing start with
  | nil => rfl
  | cons c first ih =>
      have hplace : start + (c :: first).length = start + 1 + first.length := by
        rw [List.length_cons]
        omega
      rw [List.cons_append, hplace]
      cases hedge : c.edge nodes with
      | ok e => rw [droppedFrom_cons_ok hedge, droppedFrom_cons_ok hedge, ih]
      | error reason =>
          rw [droppedFrom_cons_error hedge, droppedFrom_cons_error hedge, ih, List.cons_append]

end SameEdges

namespace Canvas

variable {c next : Canvas} {source target text : String} {e : ConnectError}

namespace Extends

/-- A connection between nodes of a canvas keeps its edge, or its fault, when the canvas grows. -/
theorem edge_eq (hgrow : c.Extends next) {connection : Connection}
    (hsource : c.Has connection.source) (htarget : c.Has connection.target) :
    connection.edge next.nodes = connection.edge c.nodes := by
  obtain ⟨first, hfirst⟩ := hsource
  obtain ⟨second, hsecond⟩ := htarget
  rw [Connection.edge, Connection.edge, labelOf_of_some hfirst, labelOf_of_some hsecond,
    labelOf_of_some (hgrow.node? hfirst), labelOf_of_some (hgrow.node? hsecond)]

/-- A text that is refused for another reason than a missing node stays refused. -/
theorem resolve_error (hgrow : c.Extends next) (herror : c.resolve text = .error e)
    (hknown : ∀ node, e ≠ .unknownNode node) : next.resolve text = .error e := by
  rw [resolve_eq_error_iff] at herror ⊢
  cases herror with
  | form hform => exact .form hform
  | node => exact absurd rfl (hknown _)
  | field hread hwritten hnode hfield => exact .field hread hwritten (hgrow.node? hnode) hfield

/-- Handles that are refused for another reason than a missing node stay refused. -/
theorem connect_error (hgrow : c.Extends next) (herror : c.connect source target = .error e)
    (hknown : ∀ node, e ≠ .unknownNode node) : next.connect source target = .error e := by
  rcases connect_eq_error_iff.mp herror with hsource | ⟨s, hsource, htarget⟩
  · exact connect_of_source_error (hgrow.resolve_error hsource hknown) target
  · exact connect_of_target_error (hgrow.resolve hsource) (hgrow.resolve_error htarget hknown)

/-- Handles that are connected can be connected again when the canvas has grown. -/
theorem connect_ok (hgrow : c.Extends next) {drawn : Canvas}
    (hok : c.connect source target = .ok drawn) :
    ∃ later, next.connect source target = .ok later := by
  obtain ⟨s, t, hsource, htarget, -⟩ := connect_eq_ok_iff.mp hok
  exact ⟨_, connect_of_resolve (hgrow.resolve hsource) (hgrow.resolve htarget)⟩

end Extends

/-- A tidy canvas that grows keeps the joins and the dropped connections of its inference. -/
theorem Tidy.inference_grows {grid : GridLayout} (htidy : c.Tidy grid) (hgrow : c.Extends next) :
    (inferJoins c.nodes c.connections).joined <+:
        (inferJoins next.nodes next.connections).joined ∧
      (inferJoins c.nodes c.connections).dropped <+:
        (inferJoins next.nodes next.connections).dropped := by
  have hsame : ∀ connection ∈ c.connections,
      connection.edge next.nodes = connection.edge c.nodes := by
    intro connection hconnection
    obtain ⟨hsource, htarget⟩ := htidy.ends connection hconnection
    exact hgrow.edge_eq hsource htarget
  obtain ⟨added, hadded⟩ := hgrow.connections
  constructor
  · rw [joined_inferJoins, joined_inferJoins, ← hadded, edges_append, edges_congr hsame,
      List.flatMap_append]
    exact List.prefix_append _ _
  · show droppedFrom c.nodes 0 c.connections <+: droppedFrom next.nodes 0 next.connections
    rw [← hadded, droppedFrom_append, droppedFrom_congr hsame]
    exact List.prefix_append _ _

/-- Later calls undo nothing. Whatever calls were made and are made then, inference keeps the joins
and the dropped connections that it found, at their places and for their reasons. Two handles that
were connected can be connected again, and two that were refused are refused with the same error,
unless it was for a node that was not there. -/
theorem run_keeps (grid : GridLayout) (calls later : List Call) :
    let c := ((Canvas.empty grid).run calls).2
    let next := (c.run later).2
    (inferJoins c.nodes c.connections).joined <+:
        (inferJoins next.nodes next.connections).joined ∧
      (inferJoins c.nodes c.connections).dropped <+:
        (inferJoins next.nodes next.connections).dropped ∧
      (∀ source target drawn, c.connect source target = .ok drawn →
        ∃ again, next.connect source target = .ok again) ∧
      ∀ source target error, c.connect source target = .error error →
        next.connect source target = .error error ∨ ∃ node, error = .unknownNode node := by
  intro c next
  have htidy : c.Tidy grid := run_tidy (.empty grid) calls
  have hgrow : c.Extends next := run_extends c later
  obtain ⟨hjoined, hdropped⟩ := htidy.inference_grows hgrow
  refine ⟨hjoined, hdropped, ?_, ?_⟩
  · intro source target drawn hok
    exact hgrow.connect_ok hok
  · intro source target error herror
    by_cases hknown : ∀ node, error ≠ .unknownNode node
    · exact .inl (hgrow.connect_error herror hknown)
    · push Not at hknown
      exact .inr hknown

/-- A table, a connection of two of its handles, and a connection with a text that is no handle. -/
def parents : List Call :=
  [.addTable ⟨"parts", [⟨"id", "id", .number, true, false⟩, ⟨"of", "of", .number, false, false⟩]⟩,
   .connect "0-of-source" "0-id-target",
   .insertConnection ⟨0, "no handle", 0, "0-id-target"⟩]

/-- A second table lets the canvas draw a connection that it refused before. The join and the
dropped connection stay, and so do the answers to handles whose nodes were there. -/
theorem run_keeps_parents :
    let c := ((Canvas.empty {}).run parents).2
    let next := (c.run [.addTable ⟨"makers", [⟨"id", "id", .number, true, false⟩]⟩]).2
    (c.perform (.connect "0-of-source" "1-id-target")).1 = .refused (.unknownNode 1) ∧
      (next.perform (.connect "0-of-source" "1-id-target")).1 = .drawn 2 ∧
      (inferJoins c.nodes c.connections).joined <+:
        (inferJoins next.nodes next.connections).joined ∧
      (inferJoins c.nodes c.connections).dropped <+:
        (inferJoins next.nodes next.connections).dropped ∧
      (∃ again, next.connect "0-of-source" "0-id-target" = .ok again) ∧
      next.connect "0-of-source" "0-to-target" = .error (.unknownField 0 "to") := by
  intro c next
  obtain ⟨hjoined, hdropped, haccepted, hrefused⟩ :=
    run_keeps {} parents [.addTable ⟨"makers", [⟨"id", "id", .number, true, false⟩]⟩]
  have hof : c.resolve "0-of-source" = .ok ⟨0, "of", .source⟩ := by decide +kernel
  have hid : c.resolve "0-id-target" = .ok ⟨0, "id", .target⟩ := by decide +kernel
  have hto : c.resolve "0-to-target" = .error (.unknownField 0 "to") := by decide +kernel
  refine ⟨by decide +kernel, by decide +kernel, hjoined, hdropped, ?_, ?_⟩
  · exact haccepted _ _ _ (connect_of_resolve hof hid)
  · rcases hrefused _ _ _ (connect_of_target_error hof hto) with hsame | ⟨node, hunknown⟩
    · exact hsame
    · cases hunknown

end Canvas

end QueryCanvas
